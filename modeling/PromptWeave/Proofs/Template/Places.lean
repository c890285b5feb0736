import PromptWeave.Proofs.Draw.InRange
import PromptWeave.Template.LineAlternatives

/-! The texts that fill the places of a template.

A choice within range takes one of the options, and its pick says which one (`Takes`). The texts
that fill a row of places come from the picks in order (`Slot.fills_run_fillAll`), and both ways of
resolving a template fill its places and write the texts with commas between them. -/

namespace PromptWeave

/-- A choice among options: the picks that it makes, and what it takes. -/
inductive Takes : List Text → List Pick → Option Text → Prop
  | none : Takes [] [] none
  | one {options : List Text} {i : Nat} (h : i < options.length) :
      Takes options [⟨options.length, i⟩] (some options[i])

/-- What a choice takes follows from the picks, also where others come after them. -/
theorem Takes.unique {options : List Text} {taken taken' picks picks' : List Pick}
    {text? text?' : Option Text} (h : Takes options taken text?) (h' : Takes options taken' text?')
    (he : taken ++ picks = taken' ++ picks') : text? = text?' ∧ picks = picks' := by
  cases h with
  | none =>
    cases h' with
    | none => exact ⟨rfl, he⟩
    | one hi => cases hi
  | one hi =>
    cases h' with
    | none => cases hi
    | one hj =>
      obtain ⟨hp, hrest⟩ := List.cons.inj he
      cases hp
      exact ⟨rfl, hrest⟩

namespace Slot

/-- The picks that filling a place makes, and the text that fills it. -/
inductive Fits : Slot → List Pick → Option Text → Prop
  | fixed (text : Text) : Fits (.fixed text) [] (some text)
  | options {texts : List Text} {picks : List Pick} {text? : Option Text} :
      Takes texts picks text? → Fits (.options texts) picks text?

/-- The picks that filling a row of places makes, and the texts that fill them. -/
inductive Fills : List Slot → List Pick → List Text → Prop
  | nil : Fills [] [] []
  | cons {slot : Slot} {slots : List Slot} {taken picks : List Pick} {text? : Option Text}
      {texts : List Text} : slot.Fits taken text? → Fills slots picks texts →
      Fills (slot :: slots) (taken ++ picks) (text?.toList ++ texts)

section
variable {σ : Type} [Source σ] {s : σ}

theorem takes_run_choose {options : List Text} (hr : ((choose options).run s).InRange) :
    Takes options ((choose options).run s).picks ((choose options).run s).value := by
  unfold choose at hr ⊢
  split
  · rename_i ho
    subst ho
    exact .none
  · rename_i ho
    rw [if_neg ho, Draw.inRange_bind] at hr
    rw [Draw.run_bind]
    have hi : (Source.pick s options.length).1 < options.length := by
      simpa [Draw.Outcome.InRange] using hr.1
    simp only [Draw.run_pick, Draw.run_pure, List.append_nil, List.getElem?_eq_getElem hi]
    exact .one hi

theorem fits_run_fill {slot : Slot} (hr : (slot.fill.run s).InRange) :
    slot.Fits (slot.fill.run s).picks (slot.fill.run s).value := by
  cases slot with
  | fixed text => exact .fixed text
  | options texts => exact .options (takes_run_choose hr)

theorem fills_run_fillAll {slots : List Slot} (hr : ((fillAll slots).run s).InRange) :
    Fills slots ((fillAll slots).run s).picks ((fillAll slots).run s).value := by
  induction slots generalizing s with
  | nil => exact .nil
  | cons slot slots ih =>
    rw [fillAll, Draw.inRange_bind, Draw.inRange_bind] at hr
    rw [fillAll, Draw.run_bind, Draw.run_bind]
    simp only [Draw.run_pure, List.append_nil]
    exact .cons (fits_run_fill hr.1) (ih hr.2.1)

/-! ## Resolving -/

theorem run_assemble (slots : List Slot) (s : σ) :
    ((assemble slots).run s).value = [',', ' '].intercalate ((fillAll slots).run s).value ∧
      ((assemble slots).run s).picks = ((fillAll slots).run s).picks := by
  rw [assemble, Draw.run_bind]
  exact ⟨rfl, List.append_nil _⟩

end

/-- Filling a row of places asks only where there are options. -/
theorem asksSome_fillAll (slots : List Slot) : (fillAll slots).AsksSome := by
  refine (asks_fillAll slots).asksSome fun n hn => ?_
  obtain ⟨slot, -, hc⟩ := List.mem_filterMap.1 hn
  cases slot with
  | fixed text => cases hc
  | options texts =>
    rw [count?] at hc
    split at hc
    · cases hc
    · cases hc
      exact List.length_pos_iff.2 ‹_›

theorem asksSome_assemble (slots : List Slot) : (assemble slots).AsksSome :=
  (asksSome_fillAll slots).bind fun _ => Draw.asksSome_pure _

end Slot

namespace Template

section
variable {σ : Type} [Source σ]

/-- A template is resolved by filling its places. A blank one has none. -/
theorem run_resolve (template : Text) (s : σ) :
    let o := (Slot.fillAll (slots (lines template))).run s
    ((resolve template).run s).value = [',', ' '].intercalate o.value ∧
      ((resolve template).run s).picks = o.picks := by
  unfold resolve
  split
  · rename_i h
    rw [lines_of_blank h]
    exact ⟨rfl, rfl⟩
  · rw [Draw.run_bind, Draw.run_bind]
    obtain ⟨hv, hp⟩ := Slot.run_assemble (slots (lines template)) s
    exact ⟨hv, (List.append_nil _).trans hp⟩

theorem lineSlots_nil : lineSlots [] = [] := by
  rw [lineSlots, barred, mergeBars]
  rfl

theorem run_resolveLines (template : Text) (s : σ) :
    let o := (Slot.fillAll (lineSlots (lines template))).run s
    ((resolveLines template).run s).value = [',', ' '].intercalate o.value ∧
      ((resolveLines template).run s).picks = o.picks := by
  unfold resolveLines
  split
  · rename_i h
    rw [lines_of_blank h, lineSlots_nil]
    exact ⟨rfl, rfl⟩
  · exact Slot.run_assemble _ s

end

theorem asksSome_resolve (template : Text) : (resolve template).AsksSome :=
  (asks_resolve template).asksSome fun _ => pos_of_mem_optionCounts

theorem asksSome_resolveLines (template : Text) : (resolveLines template).AsksSome := by
  unfold resolveLines
  split
  · exact Draw.asksSome_pure []
  · exact Slot.asksSome_assemble _

end Template

end PromptWeave
