import PromptWeave.Proofs.Tags.Normal
import PromptWeave.Tags.Combine

/-! Merges of sequences whose tags can stand between commas.

No merge makes a tag: each tag of a merged sequence is one of the merged ones, so that a merge of
normal sequences is normal in every mode (`normal_combine`). -/

namespace PromptWeave

namespace Tags

theorem mem_of_mem_interleave {sequences : List Tags} {t : Text}
    (h : t ∈ (interleave sequences).toList) : ∃ tags ∈ sequences, t ∈ tags.toList := by
  obtain ⟨i, -, hi⟩ := List.mem_flatMap.1 h
  obtain ⟨tags, ht, hg⟩ := List.mem_filterMap.1 hi
  exact ⟨tags, ht, List.mem_of_getElem? hg⟩

theorem column_cons {tags : Tags} {after : List Tags} {i : Nat} :
    column (tags :: after) i = (tags.get? i).toList ++ column after i := by
  cases h : tags.get? i <;> simp [column, h]

theorem flatMap_range_get? {tags : Tags} {m : Nat} (h : tags.size ≤ m) :
    (List.range m).flatMap (fun i => (tags.get? i).toList) = tags.toList := by
  obtain ⟨ts⟩ := tags
  show (List.range m).flatMap (fun i => ts[i]?.toList) = ts
  induction ts generalizing m with
  | nil => simp
  | cons t ts ih =>
    obtain ⟨m, rfl⟩ := Nat.exists_eq_add_of_lt (Nat.lt_of_lt_of_le (Nat.zero_lt_succ _) h)
    rw [Nat.zero_add, List.range_succ_eq_map, List.flatMap_cons, List.flatMap_map]
    exact congrArg (t :: ·) (ih (Nat.le_of_succ_le_succ (by simpa [size] using h)))

/-- A sequence is not changed where there is nothing to merge it with. -/
theorem interleave_singleton (tags : Tags) : interleave [tags] = tags := by
  have hc : column [tags] = fun i => (tags.get? i).toList :=
    funext fun i => column_cons.trans (List.append_nil _)
  have hl : longest [tags] = tags.size := Nat.max_zero _
  rw [interleave, hc, hl, flatMap_range_get? (Nat.le_refl _)]

theorem mem_of_mem_getD {inputs : List Tags} {i : Nat} {t : Text}
    (h : t ∈ (inputs.getD i empty).toList) : ∃ tags ∈ inputs, t ∈ tags.toList := by
  rw [List.getD_eq_getElem?_getD] at h
  cases hi : inputs[i]? with
  | none =>
    rw [hi] at h
    nomatch h
  | some tags =>
    rw [hi] at h
    exact ⟨tags, List.mem_of_getElem? hi, h⟩

/-- Each tag of a merge is one of the merged ones, also where the choice of an input is out of
range. -/
theorem mem_of_mem_combine {σ : Type} [Source σ] {mode : Mode} {own : Tags} {inputs : List Tags}
    {switchIndex : Nat} {s : σ} {t : Text}
    (h : t ∈ ((combine mode own inputs switchIndex).run s).value.toList) :
    t ∈ own.toList ∨ ∃ tags ∈ inputs, t ∈ tags.toList := by
  cases mode with
  | switch =>
    cases switchIndex with
    | zero => exact .inl h
    | succ i => exact (List.mem_append.1 h).imp_right mem_of_mem_getD
  | randomize =>
    simp only [combine, appendDrawn] at h
    split at h
    · exact .inl h
    · exact (List.mem_append.1 h).imp_right mem_of_mem_getD
  | combine =>
    obtain ⟨tags, hm, hv⟩ := mem_of_mem_interleave h
    rcases List.mem_cons.1 (List.mem_filter.1 hm).1 with rfl | hm
    · exact .inl hv
    · exact .inr ⟨tags, hm, hv⟩

/-- A merge of normal sequences is normal. -/
theorem normal_combine {σ : Type} [Source σ] {own : Tags} {inputs : List Tags} (ho : own.Normal)
    (hi : ∀ tags ∈ inputs, tags.Normal) (mode : Mode) (switchIndex : Nat) (s : σ) :
    ((combine mode own inputs switchIndex).run s).value.Normal :=
  fun t ht => (mem_of_mem_combine ht).elim (ho t) fun ⟨tags, hm, hv⟩ => hi tags hm t hv

end Tags

end PromptWeave
