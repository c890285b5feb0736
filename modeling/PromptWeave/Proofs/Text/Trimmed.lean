import Mathlib.Data.List.DropRight
import PromptWeave.Text.Blank

/-! Trimmed texts, and the trimmed pieces of a text.

Trimming ends in a text without blanks at its ends, and does nothing to such a text. The trimmed
pieces of a text (`trimmedPieces`) are cut where the mark stands, and do not depend on the blanks
around them. -/

namespace PromptWeave

namespace Text

/-! ## Trimming -/

/-- A text without blanks at its ends. -/
structure Trimmed (s : Text) : Prop where
  head : ∀ h : s ≠ [], isBlank (s.head h) = false
  last : ∀ h : s ≠ [], isBlank (s.getLast h) = false

theorem prefix_trimEnd (s : Text) : trimEnd s <+: s :=
  List.rdropWhile_prefix isBlank s

theorem trim_sublist (s : Text) : (trim s).Sublist s :=
  (prefix_trimEnd _).sublist.trans (List.dropWhile_sublist _)

theorem trimmed_trim (s : Text) : Trimmed (trim s) where
  head h :=
    (congrArg isBlank ((prefix_trimEnd (trimStart s)).head h)).trans
      (List.head_dropWhile_not isBlank _)
  last h := Bool.eq_false_iff.2 (List.rdropWhile_last_not isBlank (trimStart s) h)

theorem Trimmed.trim_eq {s : Text} (h : Trimmed s) : trim s = s := by
  have hs : trimStart s = s := List.dropWhile_eq_self_iff.2 fun hl => by
    cases s with
    | nil => simp at hl
    | cons c s => simpa using h.head (List.cons_ne_nil c s)
  rw [trim, hs]
  exact List.rdropWhile_eq_self_iff.2 fun hn => by simp [h.last hn]

/-- Whatever stands between two trimmed texts, the ends of the whole are theirs. -/
theorem Trimmed.append {s t : Text} (hs : Trimmed s) (ht : Trimmed t) (hs' : s ≠ [])
    (ht' : t ≠ []) (m : Text) : Trimmed (s ++ (m ++ t)) where
  head h := by
    simpa [List.head_append, hs'] using hs.head hs'
  last h := by
    simpa [List.getLast_append, ht'] using ht.last ht'

theorem trim_cons_of_blank {c : Char} (h : isBlank c) (s : Text) : trim (c :: s) = trim s := by
  rw [trim, trim, trimStart, trimStart, List.dropWhile_cons_of_pos h]

/-- Only blanks are trimmed away altogether. -/
theorem isBlank_of_trim_eq_nil {s : Text} (h : trim s = []) : ∀ c ∈ s, isBlank c := by
  have hd : ∀ c ∈ s.dropWhile isBlank, isBlank c := List.rdropWhile_eq_nil_iff.1 h
  intro c hc
  rw [← List.takeWhile_append_dropWhile (p := isBlank) (l := s), List.mem_append] at hc
  exact hc.elim List.mem_takeWhile_imp (hd c)

theorem trim_eq_nil_of_blank {s : Text} (h : ∀ c ∈ s, isBlank c) : trim s = [] := by
  rw [trim, trimStart, List.dropWhile_eq_nil_iff.2 h]
  rfl

/-! ## Pieces -/

theorem trimmedPieces_append_cons (mark : Char) (s t : Text) :
    trimmedPieces mark (s ++ mark :: t) = trimmedPieces mark s ++ trimmedPieces mark t := by
  simp [trimmedPieces, pieces_append_cons]

theorem trimmedPieces_cons_of_blank {mark c : Char} (h : isBlank c) (hc : c ≠ mark) (s : Text) :
    trimmedPieces mark (c :: s) = trimmedPieces mark s := by
  obtain ⟨p, ps, hp⟩ := List.exists_cons_of_ne_nil (pieces_ne_nil mark s)
  simp [trimmedPieces, pieces, hc, hp, trim_cons_of_blank h]

/-- A text without the mark has itself as its only piece. -/
theorem trimmedPieces_of_not_mem {mark : Char} {s : Text} (h : mark ∉ s) (ht : Trimmed s)
    (hs : s ≠ []) : trimmedPieces mark s = [s] := by
  simp [trimmedPieces, pieces_of_not_mem h, ht.trim_eq, hs]

theorem trimmedPieces_of_blank {mark : Char} {s : Text} (h : ∀ c ∈ s, isBlank c) :
    trimmedPieces mark s = [] := by
  induction s with
  | nil => rfl
  | cons c s ih =>
    obtain ⟨hc, hs⟩ := List.forall_mem_cons.1 h
    by_cases hm : c = mark
    · subst hm
      exact (trimmedPieces_append_cons c [] s).trans (ih hs)
    · rw [trimmedPieces_cons_of_blank hc hm, ih hs]

/-- What a text between two marks can be. -/
structure IsPiece (mark : Char) (p : Text) : Prop where
  ne_nil : p ≠ []
  trimmed : Trimmed p
  not_mem : mark ∉ p

theorem isPiece_of_mem_trimmedPieces {mark : Char} {s p : Text} (h : p ∈ trimmedPieces mark s) :
    IsPiece mark p := by
  simp only [trimmedPieces, List.mem_filter, List.mem_map, decide_eq_true_eq] at h
  obtain ⟨⟨q, hq, rfl⟩, hp⟩ := h
  exact ⟨hp, trimmed_trim q, fun hm => not_mem_of_mem_pieces hq ((trim_sublist q).subset hm)⟩

end Text

end PromptWeave
