import PromptWeave.Proofs.Tags.Normal
import PromptWeave.Tags.Dedupe

/-! Removal of repeated tags along a sequence.

Which tags stay depends on the tags before them by their keys only, so the tags can be gone through
in parts (`dedupeAfter_append`). Keys that a later pass takes for seen may as well be left in or out
by an earlier one (`dedupeAfter_dedupeAfter`); hence removing repetitions from the end of a sequence
first changes nothing (`dedupe_append_dedupe`). A pass leaves all keys (`mem_keys_dedupeAfter`), so
what follows it stays or goes as before; hence the same holds for the beginning and for any part of
a sequence (`dedupe_append_dedupe_append`). -/

namespace PromptWeave

namespace Tags

/-- The keys of the tags that are no directives. -/
def keys (tags : List Text) : List Text :=
  (tags.filter (!isDirective ·)).map key

theorem keys_cons_of_isDirective {t : Text} (h : isDirective t) (ts : List Text) :
    keys (t :: ts) = keys ts := by
  simp [keys, h]

theorem keys_cons_of_not_isDirective {t : Text} (h : ¬isDirective t) (ts : List Text) :
    keys (t :: ts) = key t :: keys ts := by
  simp [keys, h]

/-- Of the seen keys it matters only which they are. -/
theorem dedupeAfter_congr {seen seen' : List Text} (h : ∀ k, k ∈ seen ↔ k ∈ seen')
    (ts : List Text) : dedupeAfter seen ts = dedupeAfter seen' ts := by
  induction ts generalizing seen seen' with
  | nil => rfl
  | cons t ts ih =>
    have hc : ∀ k, k ∈ key t :: seen ↔ k ∈ key t :: seen' := fun k => by
      rw [List.mem_cons, List.mem_cons, h k]
    simp only [dedupeAfter, h (key t), ih h, ih hc]

/-- Behind some tags, their keys are seen. -/
theorem dedupeAfter_append (seen ts us : List Text) :
    dedupeAfter seen (ts ++ us) = dedupeAfter seen ts ++ dedupeAfter (keys ts ++ seen) us := by
  induction ts generalizing seen with
  | nil => rfl
  | cons t ts ih =>
    rw [List.cons_append]
    by_cases hd : isDirective t
    · rw [keys_cons_of_isDirective hd]
      simp [dedupeAfter, hd, ih]
    rw [keys_cons_of_not_isDirective hd]
    by_cases hs : key t ∈ seen
    · have hk : ∀ k, k ∈ keys ts ++ seen ↔ k ∈ key t :: keys ts ++ seen := by
        intro k
        rw [List.cons_append, List.mem_cons, List.mem_append]
        exact ⟨.inr, fun h => h.elim (fun h => .inr (h ▸ hs)) id⟩
      simp [dedupeAfter, hd, hs, ih, dedupeAfter_congr hk]
    · have hk : ∀ k, k ∈ keys ts ++ key t :: seen ↔ k ∈ key t :: keys ts ++ seen := by
        intro k
        exact List.perm_middle.mem_iff
      simp [dedupeAfter, hd, hs, ih, dedupeAfter_congr hk]

/-- Removing repetitions twice does no more than the pass that has seen more. -/
theorem dedupeAfter_dedupeAfter {seen seen' : List Text} (h : seen' ⊆ seen) (ts : List Text) :
    dedupeAfter seen (dedupeAfter seen' ts) = dedupeAfter seen ts := by
  induction ts generalizing seen seen' with
  | nil => rfl
  | cons t ts ih =>
    by_cases hd : isDirective t
    · simp [dedupeAfter, hd, ih h]
    by_cases hs' : key t ∈ seen'
    · simp [dedupeAfter, hd, hs', h hs', ih h]
    by_cases hs : key t ∈ seen
    · have hc : key t :: seen' ⊆ seen := List.cons_subset.2 ⟨hs, h⟩
      simp [dedupeAfter, hd, hs', hs, ih hc]
    · have hc : key t :: seen' ⊆ key t :: seen := List.cons_subset_cons _ h
      simp [dedupeAfter, hd, hs', hs, ih hc]

theorem dedupeAfter_sublist (seen ts : List Text) : (dedupeAfter seen ts).Sublist ts := by
  induction ts generalizing seen with
  | nil => exact .slnil
  | cons t ts ih =>
    rw [dedupeAfter]
    split
    · exact (ih seen).cons_cons t
    · split
      · exact (ih seen).cons t
      · exact (ih _).cons_cons t

/-- Repetitions may be removed from later tags before earlier tags are put in front of them. -/
theorem dedupe_append_dedupe (a b : Tags) : (a ++ b.dedupe).dedupe = (a ++ b).dedupe := by
  simp only [dedupe, toList_append, dedupeAfter_append, Tags.mk.injEq, List.append_cancel_left_eq]
  exact dedupeAfter_dedupeAfter (List.nil_subset _) _

theorem dedupe_dedupe (a : Tags) : a.dedupe.dedupe = a.dedupe :=
  dedupe_append_dedupe empty a

theorem Normal.dedupe {a : Tags} (h : a.Normal) : a.dedupe.Normal :=
  fun t ht => h t ((dedupeAfter_sublist _ _).subset ht)

/-! ## Keys that are left -/

theorem mem_keys {ts : List Text} {k : Text} :
    k ∈ keys ts ↔ ∃ t ∈ ts, ¬isDirective t ∧ key t = k := by
  simp [keys, and_assoc]

/-- All keys are left but those that were seen before. -/
theorem mem_keys_dedupeAfter {seen ts : List Text} {k : Text} :
    k ∈ keys (dedupeAfter seen ts) ↔ k ∈ keys ts ∧ k ∉ seen := by
  induction ts generalizing seen with
  | nil => simp [dedupeAfter, keys]
  | cons t ts ih =>
    by_cases hd : isDirective t
    · rw [dedupeAfter, if_pos hd, keys_cons_of_isDirective hd, keys_cons_of_isDirective hd, ih]
    rw [dedupeAfter, if_neg hd, keys_cons_of_not_isDirective hd, List.mem_cons]
    by_cases hs : key t ∈ seen
    · rw [if_pos hs, ih]
      constructor
      · rintro ⟨hk, hn⟩
        exact ⟨.inr hk, hn⟩
      · rintro ⟨rfl | hk, hn⟩
        · exact absurd hs hn
        · exact ⟨hk, hn⟩
    · rw [if_neg hs, keys_cons_of_not_isDirective hd, List.mem_cons, ih, List.mem_cons, not_or]
      constructor
      · rintro (rfl | ⟨hk, -, hn⟩)
        · exact ⟨.inl rfl, hs⟩
        · exact ⟨.inr hk, hn⟩
      · rintro ⟨rfl | hk, hn⟩
        · exact .inl rfl
        · by_cases he : k = key t
          · exact .inl he
          · exact .inr ⟨hk, he, hn⟩

/-- Repetitions may be removed from earlier tags before later tags are put behind them. -/
theorem dedupe_dedupe_append (a b : Tags) : (a.dedupe ++ b).dedupe = (a ++ b).dedupe := by
  have hk (k : Text) : k ∈ keys (dedupeAfter [] a.toList) ++ [] ↔
      k ∈ keys a.toList ++ [] := by
    rw [List.append_nil, List.append_nil, mem_keys_dedupeAfter]
    exact and_iff_left List.not_mem_nil
  simp only [dedupe, toList_append, dedupeAfter_append,
    dedupeAfter_dedupeAfter (List.Subset.refl []), dedupeAfter_congr hk]

/-- A sequence that others are put in front of, one by one, may be freed of repetitions at each
step. -/
theorem foldl_dedupe_append (sequences : List Tags) (a : Tags) :
    sequences.foldl (fun tags own => (own ++ tags).dedupe) a.dedupe =
      (sequences.foldl (fun tags own => own ++ tags) a).dedupe := by
  induction sequences generalizing a with
  | nil => rfl
  | cons own sequences ih =>
    rw [List.foldl_cons, List.foldl_cons, dedupe_append_dedupe]
    exact ih (own ++ a)

/-- Repetitions may be removed from any part of a sequence before the whole is gone through, so once
is as good as twice. And where sequences are put in front of each other, it comes to the same
whether repetitions are removed at each step or at the end. -/
theorem dedupe_append_dedupe_append (a b c : Tags) :
    (a ++ b.dedupe ++ c).dedupe = (a ++ b ++ c).dedupe ∧
      b.dedupe.dedupe = b.dedupe ∧
      ∀ sequences : List Tags,
        sequences.foldl (fun tags own => (own ++ tags).dedupe) b.dedupe =
          (sequences.foldl (fun tags own => own ++ tags) b).dedupe := by
  refine ⟨?_, dedupe_dedupe b, fun sequences => foldl_dedupe_append sequences b⟩
  calc (a ++ b.dedupe ++ c).dedupe
    _ = ((a ++ b.dedupe).dedupe ++ c).dedupe := (dedupe_dedupe_append _ c).symm
    _ = ((a ++ b).dedupe ++ c).dedupe := by rw [dedupe_append_dedupe]
    _ = (a ++ b ++ c).dedupe := dedupe_dedupe_append _ c

end Tags

end PromptWeave
