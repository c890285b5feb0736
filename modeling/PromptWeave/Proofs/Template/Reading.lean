import PromptWeave.Proofs.Draw.Replay
import PromptWeave.Proofs.Template.Places
import PromptWeave.Proofs.Text.Pieces

/-! What a template stands for.

`Template.Gives` says, by the lines of a template and the parts between its commas, which text goes
with which choices. Resolving a template from a source within range gives such a text for the
choices that were made, and every row of indices for the groups of a template can be written into a
script that makes just these choices (`Template.gives_run_resolve`). The lines of a multiline group
are joined before they are cut at bars; the options are those of the single lines all the same
(`Template.groupOptions_eq`). -/

namespace PromptWeave

namespace Template

/-! ## The texts of a template -/

/-- Some line ends in a bar, and at most one does not. -/
structure IsGroup (lines : List Text) : Prop where
  exists_barred : ∃ line ∈ lines, Text.endsIn '|' line
  unbarred_le : lines.countP (fun line => !Text.endsIn '|' line) ≤ 1

/-- The options in a line of a multiline group: what stands between bars in front of the bars and
commas at its end. -/
def lineOptions (line : Text) : List Text :=
  Text.trimmedPieces '|' (Text.dropEndWhile (fun c => c == '|' || c == ',') line)

/-- The choices among the options in parts of a template, and the texts that the parts come to. A
part without a bar stays as it is, and a part with bars but without options comes to nothing. -/
inductive PartsGive : List Text → List Pick → List Text → Prop
  | nil : PartsGive [] [] []
  | plain {part : Text} {parts : List Text} {picks : List Pick} {texts : List Text} :
      '|' ∉ part → PartsGive parts picks texts →
      PartsGive (part :: parts) picks (part :: texts)
  | group {part : Text} {parts : List Text} {taken picks : List Pick} {text? : Option Text}
      {texts : List Text} :
      '|' ∈ part → Takes (Text.trimmedPieces '|' part) taken text? →
      PartsGive parts picks texts →
      PartsGive (part :: parts) (taken ++ picks) (text?.toList ++ texts)

/-- The choices in a template, and the text that it comes to. A multiline group is a single choice
among the options of all its lines; otherwise the lines are joined by spaces and cut at commas. -/
inductive Gives (template : Text) : List Pick → Text → Prop
  | group {picks : List Pick} {text? : Option Text} :
      IsGroup (lines template) → Takes ((lines template).flatMap lineOptions) picks text? →
      Gives template picks (text?.getD [])
  | list {picks : List Pick} {texts : List Text} :
      ¬IsGroup (lines template) →
      PartsGive (Text.trimmedPieces ',' ([' '].intercalate (lines template))) picks texts →
      Gives template picks ([',', ' '].intercalate texts)

theorem PartsGive.unique {parts : List Text} {picks : List Pick} {texts texts' : List Text}
    (h : PartsGive parts picks texts) (h' : PartsGive parts picks texts') : texts = texts' := by
  induction h generalizing texts' with
  | nil =>
    cases h'
    rfl
  | plain hp _ ih =>
    cases h' with
    | plain _ h' => rw [ih h']
    | group hp' _ _ => exact absurd hp' hp
  | @group part parts taken picks text? texts hp ht _ ih =>
    generalize hq : taken ++ picks = all at h'
    cases h' with
    | plain hp' _ => exact absurd hp hp'
    | group _ ht' h' =>
      obtain ⟨rfl, rfl⟩ := ht.unique ht' hq
      rw [ih h']

/-- The choices settle the text. -/
theorem Gives.unique {template : Text} {picks : List Pick} {text text' : Text}
    (h : Gives template picks text) (h' : Gives template picks text') : text = text' := by
  cases h with
  | group hg ht =>
    cases h' with
    | group _ ht' =>
      obtain ⟨rfl, -⟩ := ht.unique ht' (rfl : _ ++ [] = _ ++ [])
      rfl
    | list hg' _ => exact absurd hg hg'
  | list hg hp =>
    cases h' with
    | group hg' _ => exact absurd hg' hg
    | list _ hp' => rw [hp.unique hp']

/-! ## The places of a template -/

theorem isMultilineGroup_iff {lines : List Text} : isMultilineGroup lines ↔ IsGroup lines := by
  have hl : lines.length = lines.countP (Text.endsIn '|') +
      lines.countP (fun line => !Text.endsIn '|' line) := by
    simpa using List.length_eq_countP_add_countP (Text.endsIn '|') (l := lines)
  simp only [isMultilineGroup, Bool.and_eq_true, decide_eq_true_eq, List.countP_pos_iff]
  constructor
  · rintro ⟨hb, hu⟩
    exact ⟨hb, by omega⟩
  · rintro ⟨hb, hu⟩
    exact ⟨hb, by omega⟩

/-- Joining the lines of a multiline group neither merges options of different lines nor adds
any. -/
theorem groupOptions_eq (lines : List Text) : groupOptions lines = lines.flatMap lineOptions := by
  have hl (line : Text) : Text.trimmedPieces '|' (groupLine line) = lineOptions line :=
    Text.trimmedPieces_trim (by decide) _
  calc groupOptions lines = (lines.map groupLine).flatMap (Text.trimmedPieces '|') :=
        Text.trimmedPieces_intercalate (by decide) [' '] [' '] Text.blank_space Text.blank_space _
    _ = lines.flatMap lineOptions := by rw [List.flatMap_map, funext hl]

theorem partsGive_of_fills {parts : List Text} {picks : List Pick} {texts : List Text}
    (h : Slot.Fills (parts.map Slot.ofPart) picks texts) : PartsGive parts picks texts := by
  induction parts generalizing picks texts with
  | nil =>
    cases h
    exact .nil
  | cons part parts ih =>
    rw [List.map_cons] at h
    generalize hs : Slot.ofPart part = slot at h
    cases h with
    | cons hf h =>
      by_cases hp : '|' ∈ part
      · rw [Slot.ofPart, if_pos hp] at hs
        subst hs
        cases hf with
        | options ht => exact .group hp ht (ih h)
      · rw [Slot.ofPart, if_neg hp] at hs
        subst hs
        cases hf
        exact .plain hp (ih h)

theorem gives_of_fills {template : Text} {picks : List Pick} {texts : List Text}
    (h : Slot.Fills (slots (lines template)) picks texts) :
    Gives template picks ([',', ' '].intercalate texts) := by
  unfold slots at h
  split at h
  · rename_i hg
    rw [groupOptions_eq] at h
    cases h with
    | cons hf h =>
      cases h
      cases hf with
      | options ht =>
        -- A single text is written without commas, and no text is written as the empty text.
        rename_i text?
        have hj : [',', ' '].intercalate (text?.toList ++ []) = text?.getD [] := by
          cases text? <;> simp
        rw [hj, List.append_nil]
        exact .group (isMultilineGroup_iff.1 hg) ht
  · rename_i hg
    exact .list (mt isMultilineGroup_iff.2 hg) (partsGive_of_fills h)

/-! ## Resolving -/

theorem gives_run_resolve_of_inRange {σ : Type} [Source σ] {template : Text} {s : σ}
    (hr : ((resolve template).run s).InRange) :
    Gives template ((resolve template).run s).picks ((resolve template).run s).value := by
  obtain ⟨hv, hp⟩ := run_resolve template s
  rw [Draw.Outcome.InRange, hp] at hr
  rw [hv, hp]
  exact gives_of_fills (Slot.fills_run_fillAll hr)

/-- From a source within range, a template comes to the text that it gives for the choices made. And
whatever index is assigned to each group with options, a script of these indices makes just these
choices, and the template comes to the one text that it gives for them. -/
theorem gives_run_resolve (template : Text) :
    (∀ (σ : Type) [Source σ] (s : σ), ((resolve template).run s).InRange →
      Gives template ((resolve template).run s).picks ((resolve template).run s).value) ∧
    (∀ indices : List Nat, List.Forall₂ (· < ·) indices (optionCounts template) →
      let picks := List.zipWith Pick.mk (optionCounts template) indices
      let o := (resolve template).run (Script.ofList indices)
      o.picks = picks ∧ ∀ text, Gives template picks text ↔ text = o.value) := by
  refine ⟨fun σ _ s hr => gives_run_resolve_of_inRange hr, fun indices hi => ?_⟩
  have hp := (asks_resolve template).picks_script (s := Script.ofList indices) hi rfl
  have hg := gives_run_resolve_of_inRange
    ((asksSome_resolve template).inRange (Script.ofList indices))
  rw [hp] at hg
  refine ⟨hp, fun text => ⟨fun ht => ht.unique hg, ?_⟩⟩
  rintro rfl
  exact hg

/-- A list with a plain part, two groups and one that vanishes, and a multiline group of three lines
with four options. -/
theorem gives_run_resolve_forms :
    let list := "solo, a | b,\n| |, [x|y|z]".toList
    let group := "red hair,|\nblue | green|\nblack".toList
    optionCounts list = [2, 3] ∧ List.Forall₂ (· < ·) [1, 2] (optionCounts list) ∧
      (∀ text, Gives list [⟨2, 1⟩, ⟨3, 2⟩] text ↔ text = "solo, b, z]".toList) ∧
      ((resolve group).run (Script.always 2)).InRange ∧
      Gives group [⟨4, 2⟩] "green".toList := by
  intro list group
  have hc : optionCounts list = [2, 3] := by decide
  have hi : List.Forall₂ (· < ·) [1, 2] (optionCounts list) := by
    rw [hc]
    exact .cons (by decide) (.cons (by decide) .nil)
  have ht : ((resolve list).run (Script.ofList [1, 2])).value = "solo, b, z]".toList := by decide
  have hr : ((resolve group).run (Script.always 2)).InRange :=
    (asksSome_resolve group).inRange _
  have hpicks : ((resolve group).run (Script.always 2)).picks = [⟨4, 2⟩] := by decide
  have htext : ((resolve group).run (Script.always 2)).value = "green".toList := by decide
  obtain ⟨-, hs⟩ := gives_run_resolve list
  obtain ⟨ho, -⟩ := gives_run_resolve group
  have hg := ho Script (Script.always 2) hr
  rw [hpicks, htext] at hg
  refine ⟨hc, hi, fun text => ?_, hr, hg⟩
  rw [← ht, ← (hs [1, 2] hi).2 text, hc]
  rfl

end Template

end PromptWeave
