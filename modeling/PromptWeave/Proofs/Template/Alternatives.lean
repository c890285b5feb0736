import PromptWeave.Proofs.Template.Places
import PromptWeave.Proofs.Text.Pieces

/-! What a template stands for whose lines are alternatives.

The lines are joined by bars, but for those that end in a comma or a bar, and each segment between
commas then offers the texts between its bars (`segments`). Resolving such a template takes one text
from each segment that offers any (`alternatives_run_resolveLines`). On the way, bars are added,
merged and dropped; none of this changes what the segments offer (`segments_barred`,
`filter_alternatives_pieces`). -/

namespace PromptWeave

namespace Template

/-- The lines with a space between them after a comma or a bar, and with a bar between them
otherwise. -/
def joinLines : List Text → Text
  | [] => []
  | [line] => line
  | line :: next :: lines =>
    line ++ (if Text.endsIn ',' line || Text.endsIn '|' line then [' '] else [' ', '|', ' ']) ++
      joinLines (next :: lines)

/-- The alternatives in each segment of a text between commas, in order. -/
def segments (s : Text) : List (List Text) :=
  (Text.pieces ',' s).map (Text.trimmedPieces '|')

/-- The choices among the alternatives of segments, and the texts that are taken. A segment without
alternatives comes to nothing, and a single alternative may be taken without a choice. -/
inductive Alternatives : List (List Text) → List Pick → List Text → Prop
  | nil : Alternatives [] [] []
  | sole {text : Text} {segments : List (List Text)} {picks : List Pick} {texts : List Text} :
      Alternatives segments picks texts → Alternatives ([text] :: segments) picks (text :: texts)
  | choice {options : List Text} {segments : List (List Text)} {taken picks : List Pick}
      {text? : Option Text} {texts : List Text} :
      Takes options taken text? → Alternatives segments picks texts →
      Alternatives (options :: segments) (taken ++ picks) (text?.toList ++ texts)

/-- Segments without alternatives can be left out. -/
theorem alternatives_filter_iff {segments : List (List Text)} {picks : List Pick}
    {texts : List Text} :
    Alternatives (segments.filter (· ≠ [])) picks texts ↔
      Alternatives segments picks texts := by
  induction segments generalizing picks texts with
  | nil => rfl
  | cons options segments ih =>
    by_cases ho : options = []
    · subst ho
      rw [List.filter_cons_of_neg (by simp), ih]
      constructor
      · exact fun h => .choice .none h
      · intro h
        cases h with
        | choice ht h =>
          cases ht with
          | none => exact h
          | one hi => cases hi
    · rw [List.filter_cons_of_pos (by simpa)]
      constructor
      · intro h
        cases h with
        | sole h => exact .sole (ih.1 h)
        | choice ht h => exact .choice ht (ih.1 h)
      · intro h
        cases h with
        | sole h => exact .sole (ih.2 h)
        | choice ht h => exact .choice ht (ih.2 h)

/-! ## Segments -/

/-- Two texts without commas that leave the alternatives around them the same can stand for each
other. -/
theorem segments_congr {x y : Text} (hx : ',' ∉ x) (hy : ',' ∉ y)
    (h : ∀ p q, Text.trimmedPieces '|' (p ++ (x ++ q)) = Text.trimmedPieces '|' (p ++ (y ++ q)))
    (s t : Text) : segments (s ++ (x ++ t)) = segments (s ++ (y ++ t)) := by
  simp only [segments, Text.pieces_append_append hx, Text.pieces_append_append hy, List.map_append,
    List.map_cons, h]

/-- Nothing is offered between two bars with a space between them. -/
theorem trimmedPieces_barPair (p q : Text) :
    Text.trimmedPieces '|' (p ++ ([' ', '|', ' ', '|'] ++ q)) =
      Text.trimmedPieces '|' (p ++ ([' ', '|'] ++ q)) := by
  have hq : Text.trimmedPieces '|' (' ' :: '|' :: q) = Text.trimmedPieces '|' q :=
    (Text.trimmedPieces_cons_of_blank (by decide) (by decide) _).trans
      (Text.trimmedPieces_append_cons '|' [] q)
  calc Text.trimmedPieces '|' (p ++ ([' ', '|', ' ', '|'] ++ q)) =
        Text.trimmedPieces '|' ((p ++ [' ']) ++ '|' :: ' ' :: '|' :: q) := by simp
    _ = Text.trimmedPieces '|' ((p ++ [' ']) ++ '|' :: q) := by
        rw [Text.trimmedPieces_append_cons, Text.trimmedPieces_append_cons, hq]
    _ = Text.trimmedPieces '|' (p ++ ([' ', '|'] ++ q)) := by simp

theorem segments_mergeBarPairs (before s : Text) :
    segments (before ++ mergeBarPairs s) = segments (before ++ s) := by
  -- What stands in front may end within a segment, so it has to be any text.
  fun_induction mergeBarPairs s generalizing before with
  | case1 s ih =>
    calc segments (before ++ ' ' :: '|' :: mergeBarPairs s) =
          segments (before ++ [' ', '|'] ++ mergeBarPairs s) := by simp
      _ = segments (before ++ [' ', '|'] ++ s) := ih _
      _ = segments (before ++ ([' ', '|'] ++ s)) := by simp
      _ = segments (before ++ ([' ', '|', ' ', '|'] ++ s)) :=
          (segments_congr (by decide) (by decide) trimmedPieces_barPair before s).symm
  | case2 c s _ ih =>
    calc segments (before ++ c :: mergeBarPairs s) =
          segments (before ++ [c] ++ mergeBarPairs s) := by simp
      _ = segments (before ++ [c] ++ s) := ih _
      _ = segments (before ++ c :: s) := by simp
  | case3 => rfl

theorem segments_mergeBars (s : Text) : segments (mergeBars s) = segments s := by
  fun_induction mergeBars s with
  | case1 s _ ih => exact ih.trans (segments_mergeBarPairs [] s)
  | case2 s _ => rfl

theorem segments_append_bar (s : Text) : segments (s ++ [' ', '|']) = segments s := by
  have hb (p : Text) : Text.trimmedPieces '|' (p ++ [' ', '|']) = Text.trimmedPieces '|' p := by
    calc Text.trimmedPieces '|' (p ++ [' ', '|']) =
          Text.trimmedPieces '|' ((p ++ [' ']) ++ '|' :: []) := by simp
      _ = Text.trimmedPieces '|' (p ++ [' ']) :=
          Text.trimmedPieces_append_marks (List.forall_mem_singleton.2 rfl) _
      _ = Text.trimmedPieces '|' p :=
          Text.trimmedPieces_append_of_blank Text.blank_space (by decide) _
  conv => rhs; rw [segments, ← Text.dropLast_append_getLastD_pieces]
  rw [segments, Text.pieces_append_of_not_mem (by decide), List.map_append, List.map_append,
    List.map_singleton, List.map_singleton, hb]

/-- Marked lines differ from joined ones by a bar at the end, if at all. -/
theorem intercalate_markLine (lines : List Text) :
    [' '].intercalate (lines.map markLine) = joinLines lines ∨
      [' '].intercalate (lines.map markLine) = joinLines lines ++ [' ', '|'] := by
  induction lines with
  | nil => exact .inl rfl
  | cons line lines ih =>
    cases lines with
    | nil =>
      rw [List.map_singleton, List.intercalate_singleton, markLine, joinLines]
      split
      · exact .inl rfl
      · exact .inr rfl
    | cons next lines =>
      have hj : markLine line ++ [' '] =
          line ++ (if Text.endsIn ',' line || Text.endsIn '|' line then [' ']
            else [' ', '|', ' ']) := by
        unfold markLine
        split <;> simp
      rw [List.map_cons, List.map_cons, List.intercalate_cons_cons, ← List.map_cons,
        hj, joinLines]
      rcases ih with ih | ih
      · exact .inl (by rw [ih])
      · exact .inr (by rw [ih, ← List.append_assoc])

/-- Neither the bars that are added nor those that are merged change what the segments offer. -/
theorem segments_barred (lines : List Text) :
    segments (barred lines) = segments (joinLines lines) := by
  rw [barred, segments_mergeBars]
  rcases intercalate_markLine lines with h | h
  · rw [h]
  · rw [h, segments_append_bar]

/-! ## Places -/

end Template

/-- What can stand in a place. -/
def Slot.alternatives : Slot → List Text
  | fixed text => [text]
  | options texts => texts

namespace Template

theorem alternatives_of_fills {slots : List Slot} {picks : List Pick} {texts : List Text}
    (h : Slot.Fills slots picks texts) :
    Alternatives (slots.map Slot.alternatives) picks texts := by
  induction h with
  | nil => exact .nil
  | cons hf _ ih =>
    cases hf with
    | fixed text => exact .sole ih
    | options ht => exact .choice ht ih

theorem alternatives_ofPart {part : Text} (ht : Text.Trimmed part) (hn : part ≠ []) :
    (Slot.ofPart part).alternatives = Text.trimmedPieces '|' part := by
  unfold Slot.ofPart
  split
  · rfl
  · exact (Text.trimmedPieces_of_not_mem ‹_› ht hn).symm

theorem trimmedPieces_stripBars (part : Text) :
    Text.trimmedPieces '|' (stripBars part) = Text.trimmedPieces '|' part := by
  obtain ⟨bars, hb, he⟩ := Text.exists_eq_dropEndWhile_append (· == '|') part
  calc Text.trimmedPieces '|' (stripBars part) =
        Text.trimmedPieces '|' (Text.dropEndWhile (· == '|') part) :=
        Text.trimmedPieces_trim (by decide) _
    _ = Text.trimmedPieces '|' (Text.dropEndWhile (· == '|') part ++ bars) :=
        (Text.trimmedPieces_append_marks (fun c hc => beq_iff_eq.1 (hb c hc)) _).symm
    _ = Text.trimmedPieces '|' part := by rw [← he]

/-- Parts that are trimmed segments, or come from them by a change that keeps what they offer, have
the alternatives of the segments. A segment that vanishes offers nothing. -/
theorem filter_alternatives_pieces {g : Text → Text} (ht : ∀ p, Text.Trimmed (g (Text.trim p)))
    (hg : ∀ p, Text.trimmedPieces '|' (g p) = Text.trimmedPieces '|' p) (s : Text) :
    (((((Text.trimmedPieces ',' s).map g).filter (· ≠ [])).map Slot.ofPart).map
        Slot.alternatives).filter (· ≠ []) =
      (segments s).filter (· ≠ []) := by
  rw [segments, Text.trimmedPieces]
  induction Text.pieces ',' s with
  | nil => rfl
  | cons p ps ih =>
    have hp : Text.trimmedPieces '|' (g (Text.trim p)) = Text.trimmedPieces '|' p :=
      (hg _).trans (Text.trimmedPieces_trim (by decide) p)
    by_cases hn : Text.trim p = []
    · have he : Text.trimmedPieces '|' p = [] := by
        rw [← Text.trimmedPieces_trim (by decide) p, hn]
        rfl
      simpa [hn, he] using ih
    by_cases hb : g (Text.trim p) = []
    · have he : Text.trimmedPieces '|' p = [] := by
        rw [← hp, hb]
        rfl
      simpa [hn, hb, he] using ih
    · have ha : (Slot.ofPart (g (Text.trim p))).alternatives = Text.trimmedPieces '|' p :=
        (alternatives_ofPart (ht p) hb).trans hp
      simp only [List.map_cons, List.filter_cons, ne_eq, hn, hb, ha, not_false_eq_true, decide_true,
        if_true, ih]

theorem alternatives_of_fills_lineSlots {lines : List Text} {picks : List Pick}
    {texts : List Text} (h : Slot.Fills (lineSlots lines) picks texts) :
    Alternatives (segments (joinLines lines)) picks texts := by
  have hs (p : Text) : Text.Trimmed (stripBars p) := Text.trimmed_trim _
  have ha := alternatives_of_fills h
  rw [← alternatives_filter_iff, lineSlots,
    filter_alternatives_pieces (fun p => hs (Text.trim p)) trimmedPieces_stripBars,
    alternatives_filter_iff, segments_barred] at ha
  exact ha

/-- From a source within range, one alternative is taken from each segment that has any, in the
order of the segments, and these texts are written with commas between them. -/
theorem alternatives_run_resolveLines {σ : Type} [Source σ] (template : Text) (s : σ)
    (hr : ((resolveLines template).run s).InRange) :
    ∃ texts, Alternatives (segments (joinLines (lines template)))
        ((resolveLines template).run s).picks texts ∧
      ((resolveLines template).run s).value = [',', ' '].intercalate texts := by
  obtain ⟨hv, hp⟩ := run_resolveLines template s
  rw [Draw.Outcome.InRange, hp] at hr
  rw [hv, hp]
  exact ⟨_, alternatives_of_fills_lineSlots (Slot.fills_run_fillAll hr), rfl⟩

/-- A segment with two alternatives, of which the second one ends in bars with a tab between them, a
segment without any, and one with a single alternative. -/
theorem alternatives_run_resolveLines_mixed :
    let template := "red\nblue |\t|, | |,\nsmile|".toList
    let o := (resolveLines template).run (Script.always 1)
    segments (joinLines (lines template)) =
        [["red".toList, "blue".toList], [], ["smile".toList]] ∧
      o.InRange ∧ o.picks = [⟨2, 1⟩] ∧
      ∃ texts, Alternatives (segments (joinLines (lines template))) o.picks texts ∧
        o.value = [',', ' '].intercalate texts := by
  intro template o
  have hr : o.InRange := (asksSome_resolveLines template).inRange (Script.always 1)
  exact ⟨by decide, hr, by decide +kernel, alternatives_run_resolveLines template _ hr⟩

end Template

end PromptWeave
