import PromptWeave.Proofs.Template.Plain
import PromptWeave.Proofs.Text.Spaced

/-! Templates that differ in the spaces and tabs around their bars and commas.

Whether a template is a multiline group does not depend on them (`isMultilineGroup_spaced`), and
neither do the places of a list (`slots_spaced`). The options of a multiline group are taken as they
are written, so they keep the spaces around commas of their own; there are as many of them, in the
same order, as long as no comma is parted from the end of its line (`forall₂_groupOptions`). So
the same choices come to the same text up to the spaces at its commas (`spaced_run_resolve`). -/

namespace PromptWeave

open Text (Spaced)

/-- The marks that separate texts in templates. -/
def separators : List Char :=
  ['|', ',']

theorem isBlank_of_mem_separators {c : Char} (h : c ∈ separators) : Text.isBlank c = false := by
  rcases List.mem_pair.1 h with rfl | rfl <;> rfl

theorem eq_of_spaced {t t' : Text} (h : Spaced separators t t') (hb : '|' ∉ t) (hc : ',' ∉ t) :
    t' = t := by
  refine h.eq_of_not_mem fun c hs => ?_
  rcases List.mem_pair.1 hs with rfl | rfl
  · exact hb
  · exact hc

namespace Slot

/-- The options in a part hold neither bars nor commas, so nothing can be spaced in them. -/
theorem ofPart_spaced {part part' : Text} (h : Spaced separators part part') (hc : ',' ∉ part) :
    ofPart part' = ofPart part := by
  by_cases hb : '|' ∈ part
  · have ho : List.Forall₂ (Spaced separators) (optionsOf part) (optionsOf part') :=
      h.forall₂_trimmedPieces rfl fun _ => isBlank_of_mem_separators
    have he := Spaced.map_eq_map (f := id) ho fun t ht _ _ hs =>
      eq_of_spaced hs (Text.isPiece_of_mem_trimmedPieces ht).not_mem
        (mt (Text.mem_of_mem_trimmedPieces ht) hc)
    rw [List.map_id, List.map_id] at he
    rw [ofPart, ofPart, if_pos hb, if_pos ((h.mem_iff rfl).2 hb), he]
  · rw [eq_of_spaced h hb hc]

section
variable {R : Text → Text → Prop} {texts texts' : List Text}

theorem forall₂_toList_getElem? (h : List.Forall₂ R texts texts') (i : Nat) :
    List.Forall₂ R texts[i]?.toList texts'[i]?.toList := by
  induction h generalizing i with
  | nil => exact .nil
  | cons hr _ ih =>
    cases i with
    | zero => exact .cons hr .nil
    | succ i => exact ih i

/-- A choice among options that are related one by one makes the same picks, within range or not,
and takes texts that are related. -/
theorem forall₂_run_options {σ : Type} [Source σ] (h : List.Forall₂ R texts texts') (s : σ) :
    ((fillAll [options texts']).run s).picks = ((fillAll [options texts]).run s).picks ∧
      List.Forall₂ R ((fillAll [options texts]).run s).value
        ((fillAll [options texts']).run s).value := by
  cases h with
  | nil => exact ⟨rfl, .nil⟩
  | cons hr h =>
    have hg := forall₂_toList_getElem? (.cons hr h)
    simpa [fillAll, fill, choose, h.length_eq] using hg _

end

end Slot

namespace Template

section
variable {marks : List Char} {template template' line line' : Text}

/-! ## Lists -/

theorem forall₂_lines (hm : ∀ c ∈ marks, c ∈ separators)
    (h : Spaced marks template template') :
    List.Forall₂ (Spaced marks) (lines template) (lines template') :=
  h.forall₂_trimmedPieces rfl fun c hc => isBlank_of_mem_separators (hm c hc)

/-- No line gets another last character, for it ends where its blanks are trimmed away. -/
theorem isMultilineGroup_spaced (h : Spaced separators template template') :
    isMultilineGroup (lines template') = isMultilineGroup (lines template) := by
  have hl := forall₂_lines (fun _ => id) h
  have he := Spaced.map_eq_map (f := Text.endsIn '|') hl fun line _ line' hm hs => by
    rw [Text.endsIn, Text.endsIn,
      hs.getLast?_eq_of_trimmed (Text.isPiece_of_mem_trimmedPieces hm).trimmed]
  have hc (ls : List Text) : ls.countP (Text.endsIn '|') =
      (ls.map (Text.endsIn '|')).countP id := by
    rw [List.countP_map]
    rfl
  rw [isMultilineGroup, isMultilineGroup, hc, hc, he, hl.length_eq]

theorem slots_spaced (h : Spaced separators template template')
    (hg : ¬isMultilineGroup (lines template)) :
    slots (lines template') = slots (lines template) := by
  have hp : List.Forall₂ (Spaced separators) (parts (lines template)) (parts (lines template')) :=
    (Spaced.intercalate (forall₂_lines (fun _ => id) h) [' ']).forall₂_trimmedPieces rfl
      fun _ => isBlank_of_mem_separators
  rw [slots, slots, isMultilineGroup_spaced h, if_neg hg, if_neg hg]
  exact Spaced.map_eq_map hp fun part hm _ _ hs =>
    Slot.ofPart_spaced hs (Text.isPiece_of_mem_trimmedPieces hm).not_mem

/-! ## Multiline groups -/

/-- A bar or a comma. -/
def isSeparator (c : Char) : Bool :=
  c == '|' || c == ','

/-- The number of commas among the bars and commas at the end of a line. -/
def endCommas (line : Text) : Nat :=
  (line.rtakeWhile isSeparator).count ','

theorem isSeparator_of_isSpacer {c : Char} (h : Text.isSpacer c) : isSeparator c = false := by
  simp only [Text.isSpacer, Bool.or_eq_true, beq_iff_eq] at h
  rcases h with rfl | rfl <;> rfl

/-- If the commas of a row of bars and commas all stand at the end of the spaced text, what is in
front of them are bars and blanks. -/
theorem isBlank_or_eq_bar {row left closing : Text} (h : Spaced marks row (left ++ closing))
    (hr : ∀ c ∈ row, isSeparator c) (hc : closing.count ',' = row.count ',') {c : Char}
    (hm : c ∈ left) : Text.isBlank c ∨ c = '|' := by
  by_cases hs : Text.isSpacer c
  · exact .inl (Text.isBlank_of_isSpacer hs)
  have hn : ',' ∉ left := by
    have ht := h.count_eq (c := ',') rfl
    rw [List.count_append] at ht
    exact List.count_eq_zero.1 (by omega)
  have hrow : c ∈ row := (h.mem_iff (Bool.eq_false_iff.2 hs)).1 (List.mem_append_left closing hm)
  have hb : c = '|' ∨ c = ',' := by simpa [isSeparator] using hr c hrow
  exact .inr (hb.resolve_right fun he => hn (he ▸ hm))

theorem forall₂_lineOptions (hm : ∀ c ∈ marks, c ∈ separators) (h : Spaced marks line line')
    (he : endCommas line' = endCommas line) :
    List.Forall₂ (Spaced marks) (lineOptions line) (lineOptions line') := by
  rw [← List.rdropWhile_append_rtakeWhile (p := isSeparator) (l := line)] at h
  obtain ⟨x, r, rfl, hx, hr⟩ := h.exists_of_append
  -- What stands in front of the closing bars and commas ends as before, so nothing of it is
  -- dropped.
  have hd : Text.dropEndWhile isSeparator (x ++ r) = x ++ Text.dropEndWhile isSeparator r := by
    refine Text.dropEndWhile_append_of_eq ?_ r
    exact hx.dropEndWhile_eq_self (fun _ => isSeparator_of_isSpacer) (List.rdropWhile_idempotent ..)
  have hs : Text.dropEndWhile isSeparator r ++ (x ++ r).rtakeWhile isSeparator = r := by
    refine (List.append_right_inj x).1 ?_
    rw [← List.append_assoc, ← hd]
    exact List.rdropWhile_append_rtakeWhile ..
  have hb : ∀ c ∈ Text.dropEndWhile isSeparator r, Text.isBlank c ∨ c = '|' := fun c hc =>
    isBlank_or_eq_bar (hs.symm ▸ hr) (fun _ => List.mem_rtakeWhile_imp) he hc
  have ho : lineOptions (x ++ r) = Text.trimmedPieces '|' x :=
    (congrArg _ hd).trans (Text.trimmedPieces_append_of_blank_or_mark hb x)
  rw [ho]
  exact hx.forall₂_trimmedPieces rfl fun c hc => isBlank_of_mem_separators (hm c hc)

theorem forall₂_groupOptions (hm : ∀ c ∈ marks, c ∈ separators) {ls ls' : List Text}
    (h : List.Forall₂ (Spaced marks) ls ls') (he : ls'.map endCommas = ls.map endCommas) :
    List.Forall₂ (Spaced marks) (groupOptions ls) (groupOptions ls') := by
  rw [groupOptions_eq, groupOptions_eq]
  induction h with
  | nil => exact .nil
  | cons hl _ ih =>
    obtain ⟨he, hes⟩ := List.cons.inj he
    rw [List.flatMap_cons, List.flatMap_cons]
    exact List.rel_append (forall₂_lineOptions hm hl he) (ih hes)

/-! ## Resolving -/

section
variable {σ : Type} [Source σ]

theorem spaced_run (hm : ∀ c ∈ marks, c ∈ separators) (h : Spaced marks template template')
    (hc : isMultilineGroup (lines template) →
      (lines template').map endCommas = (lines template).map endCommas) (s : σ) :
    ((resolve template').run s).picks = ((resolve template).run s).picks ∧
      Spaced marks ((resolve template).run s).value ((resolve template').run s).value := by
  have hs : Spaced separators template template' := h.of_mem fun c hc _ => hm c hc
  rw [(run_resolve template s).1, (run_resolve template s).2, (run_resolve template' s).1,
    (run_resolve template' s).2]
  by_cases hg : isMultilineGroup (lines template)
  · rw [slots, slots, isMultilineGroup_spaced hs, if_pos hg, if_pos hg]
    have ho := forall₂_groupOptions hm (forall₂_lines hm h) (hc hg)
    obtain ⟨hp, hv⟩ := Slot.forall₂_run_options ho s
    exact ⟨hp, Spaced.intercalate hv _⟩
  · rw [slots_spaced hs hg]
    exact ⟨rfl, .refl _⟩

/-- Spaces and tabs at the bars and commas of a template make no difference to the picks, provided
that they part no comma from the end of a line in a multiline group. They make none to the text of a
list either. The text of a multiline group keeps those at the commas inside the option that was
taken. -/
theorem spaced_run_resolve (h : Spaced separators template template')
    (hc : isMultilineGroup (lines template) →
      (lines template').map endCommas = (lines template).map endCommas) (s : σ) :
    let o := (resolve template).run s
    let o' := (resolve template').run s
    o'.picks = o.picks ∧ Spaced [','] o.value o'.value ∧
      (¬isMultilineGroup (lines template) ∨ Spaced ['|'] template template' ∨
        ',' ∉ o.value → o'.value = o.value) := by
  intro o o'
  obtain ⟨hp, hv⟩ := spaced_run (fun _ => id) h hc s
  have hb : '|' ∉ o.value := (plain_resolve template s).bar
  have hv : Spaced [','] o.value o'.value := by
    refine hv.of_mem fun c hs hm => ?_
    rcases List.mem_pair.1 hs with rfl | rfl
    · exact absurd hm hb
    · exact List.mem_singleton_self _
  refine ⟨hp, hv, ?_⟩
  rintro (hg | hbars | hn)
  · show ((resolve template').run s).value = ((resolve template).run s).value
    rw [(run_resolve template s).1, (run_resolve template' s).1, slots_spaced h hg]
  · have hm : ∀ c ∈ ['|'], c ∈ separators := List.forall_mem_singleton.2 List.mem_cons_self
    refine (spaced_run hm hbars hc s).2.eq_of_not_mem fun c hs => ?_
    rwa [List.mem_singleton.1 hs]
  · refine hv.eq_of_not_mem fun c hs => ?_
    rwa [List.mem_singleton.1 hs]

/-- Spaces at a comma inside an option and in front of one at the end of a line, and then at bars
alone. -/
theorem spaced_run_resolve_group :
    let template := "a,b|\nc,|".toList
    let commas := "a, b|\nc ,|".toList
    let bars := "a,b |\nc,|\t".toList
    isMultilineGroup (lines template) ∧
      (lines commas).map endCommas = (lines template).map endCommas ∧
      ((resolve commas).run (Script.always 0)).picks = [⟨2, 0⟩] ∧
      Spaced [','] "a,b".toList ((resolve commas).run (Script.always 0)).value ∧
      ((resolve bars).run (Script.always 0)).value = "a,b".toList := by
  intro template commas bars
  have hspace : ∀ b ∈ [' '], Text.isSpacer b := List.forall_mem_singleton.2 rfl
  have htab : ∀ b ∈ ['\t'], Text.isSpacer b := List.forall_mem_singleton.2 rfl
  have hcommas : Spaced separators template commas :=
    .cons 'a' (.behind (by decide) hspace (.cons 'b' (.cons '|' (.cons '\n' (.cons 'c'
      (.inFront (by decide) hspace (.refl _)))))))
  have hbars : Spaced ['|'] template bars :=
    .cons 'a' (.cons ',' (.cons 'b' (.inFront (by decide) hspace (.cons '\n' (.cons 'c' (.cons ','
      (.behind (by decide) htab .nil)))))))
  have hall : Spaced separators template bars :=
    hbars.of_mem (List.forall_mem_singleton.2 fun _ => List.mem_cons_self)
  have hg : isMultilineGroup (lines template) := by decide
  have he : (lines commas).map endCommas = (lines template).map endCommas := by decide
  have hv : ((resolve template).run (Script.always 0)).value = "a,b".toList := by decide
  have hp : ((resolve template).run (Script.always 0)).picks = [⟨2, 0⟩] := by decide
  obtain ⟨hq, ht, -⟩ := spaced_run_resolve hcommas (fun _ => he) (Script.always 0)
  obtain ⟨-, -, hb⟩ := spaced_run_resolve hall (fun _ => by decide) (Script.always 0)
  exact ⟨hg, he, hq.trans hp, hv ▸ ht, (hb (.inr (.inl hbars))).trans hv⟩

/-- The option of a multiline group is taken as it is written. -/
theorem value_resolve_ne_of_spaced :
    ¬∀ template template' : Text, Spaced separators template template' → ∀ s : Script,
      ((resolve template').run s).value = ((resolve template).run s).value ∧
        ((resolve template').run s).picks = ((resolve template).run s).picks := by
  intro h
  have hspace : ∀ b ∈ [' '], Text.isSpacer b := List.forall_mem_singleton.2 rfl
  have hs : Spaced separators "a,b|\nc|".toList "a, b|\nc|".toList :=
    .cons 'a' (.behind (by decide) hspace (.refl _))
  have ht : ((resolve "a,b|\nc|".toList).run (Script.always 0)).value = "a,b".toList := by decide
  have ht' : ((resolve "a, b|\nc|".toList).run (Script.always 0)).value = "a, b".toList := by decide
  have he := (h _ _ hs (Script.always 0)).1
  rw [ht, ht'] at he
  exact absurd he (by decide)

/-- A comma that is parted from the end of its line stays in the option. -/
example : ((resolve "red hair, |\nblue eyes |".toList).run (Script.always 0)).value =
    "red hair,".toList := by decide

end

end

end Template

end PromptWeave
