import PromptWeave.Proofs.Draw.Replay
import PromptWeave.Proofs.Template.Alternatives

/-! Templates of a single line.

Where a template has one line, and that does not end in a bar, both ways of resolving it take one
alternative from each segment between its commas. They may ask for choices in different places,
since a bar can be left beside a single alternative. A steady source gives the same index wherever
it is asked, so both come to the same text (`value_resolve_eq_value_resolveLines`). -/

namespace PromptWeave

namespace Template

/-- If all indices come from a function of the counts that is zero for one, they settle the texts,
whether single alternatives are taken by a choice or without. -/
theorem Alternatives.eq_filterMap {f : Nat → Nat} (hf : f 1 = 0) {segments : List (List Text)}
    {picks : List Pick} {texts : List Text} (h : Alternatives segments picks texts)
    (hp : ∀ p ∈ picks, p.index = f p.count) :
    texts = segments.filterMap fun options => options[f options.length]? := by
  induction h with
  | nil => rfl
  | @sole text segments picks texts _ ih =>
    have ht : [text][f [text].length]? = some text := by
      rw [List.length_singleton, hf]
      rfl
    rw [List.filterMap_cons, ht, ← ih hp]
  | @choice options segments taken picks text? texts ht _ ih =>
    obtain ⟨hp, hps⟩ := List.forall_mem_append.1 hp
    rw [List.filterMap_cons, ← ih hps]
    cases ht with
    | none => rfl
    | @one options i hi =>
      have hi' : i = f options.length := hp _ List.mem_cons_self
      rw [← hi', List.getElem?_eq_getElem hi]
      rfl

section
variable {σ : Type} [Source σ] {f : Nat → Nat} {s : σ} {template line : Text}

theorem slots_singleton (h : Text.endsIn '|' line = false) :
    slots [line] = (Text.trimmedPieces ',' line).map Slot.ofPart := by
  have hg : isMultilineGroup [line] = false := by simp [isMultilineGroup, h]
  rw [slots, hg, parts, List.intercalate_singleton]
  rfl

/-- The parts of a line are its segments that are not blank. -/
theorem alternatives_of_fills_singleton (h : Text.endsIn '|' line = false) {picks : List Pick}
    {texts : List Text} (hf : Slot.Fills (slots [line]) picks texts) :
    Alternatives (segments line) picks texts := by
  have hid : ((Text.trimmedPieces ',' line).map id).filter (· ≠ []) =
      Text.trimmedPieces ',' line := by
    rw [List.map_id, List.filter_eq_self]
    intro part hp
    exact decide_eq_true (Text.isPiece_of_mem_trimmedPieces hp).ne_nil
  have ha := alternatives_of_fills hf
  rw [slots_singleton h, ← alternatives_filter_iff, ← hid,
    filter_alternatives_pieces (g := id) (fun p => Text.trimmed_trim p) (fun _ => rfl),
    alternatives_filter_iff] at ha
  exact ha

/-- A template with a single line that is not blank, which does not end in a bar, comes to the same
text both as a list and with its lines as alternatives, if the source answers each count with an
index of its own below it. -/
theorem value_resolve_eq_value_resolveLines (hl : lines template = [line])
    (hb : Text.endsIn '|' line = false) (hs : Source.Steady f s) (hf : ∀ n, 1 ≤ n → f n < n) :
    ((resolve template).run s).value = ((resolveLines template).run s).value := by
  have hf₁ : f 1 = 0 := Nat.lt_one_iff.1 (hf 1 (Nat.le_refl 1))
  have hr := (Slot.asksSome_fillAll (slots [line])).inRange_of_steady hs hf
  have hr' := (Slot.asksSome_fillAll (lineSlots [line])).inRange_of_steady hs hf
  have ha := alternatives_of_fills_singleton hb (Slot.fills_run_fillAll hr)
  have ha' : Alternatives (segments line) _ _ :=
    alternatives_of_fills_lineSlots (Slot.fills_run_fillAll hr')
  rw [(run_resolve template s).1, (run_resolveLines template s).1, hl,
    ha.eq_filterMap hf₁ (Draw.index_of_steady hs _),
    ha'.eq_filterMap hf₁ (Draw.index_of_steady hs _)]

/-- A part with a choice, a blank part, one with bars only, one with a single alternative, and one
after which a bar is added. -/
theorem value_resolve_eq_value_resolveLines_bars :
    let template := "\n a | b,, | |, |c|, d ||\t e f \n".toList
    let line := "a | b,, | |, |c|, d ||\t e f".toList
    lines template = [line] ∧ Text.endsIn '|' line = false ∧
      Source.Steady (fun n => min 1 (n - 1)) (Script.always 1) ∧
      (∀ n, 1 ≤ n → min 1 (n - 1) < n) ∧
      ((resolve template).run (Script.always 1)).value =
        ((resolveLines template).run (Script.always 1)).value ∧
      ((resolve template).run (Script.always 1)).value = "b, c, e f".toList := by
  intro template line
  have hl : lines template = [line] := by decide
  have hb : Text.endsIn '|' line = false := by decide
  have hf : ∀ n, 1 ≤ n → min 1 (n - 1) < n := by
    intro n hn
    omega
  exact ⟨hl, hb, Script.steady_always 1, hf,
    value_resolve_eq_value_resolveLines hl hb (Script.steady_always 1) hf, by decide⟩

end

end Template

end PromptWeave
