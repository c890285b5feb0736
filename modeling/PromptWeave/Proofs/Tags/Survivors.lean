import Mathlib.Data.List.FinRange
import PromptWeave.Proofs.Tags.Dedupe

/-! Which tags stay when repetitions are removed.

A tag stays or goes by its position: directives stay, and any other tag stays just if it is the
first with its key (`dedupeAfter_eq_atPositions`). So all directives and all keys are left, each key
once (`leftOf_dedupe`), and what stays of the beginning of a sequence does not depend on how the
sequence goes on. -/

namespace PromptWeave

namespace Tags

/-! ## Directives -/

/-- The text begins with an opening bracket and ends with a closing one. -/
def InBrackets (t : Text) : Prop :=
  t.head? = some '[' ∧ t.getLast? = some ']'

instance (t : Text) : Decidable (InBrackets t) :=
  inferInstanceAs (Decidable (_ ∧ _))

theorem isDirective_iff (t : Text) : isDirective t ↔ InBrackets (Text.trim t) := by
  simp [isDirective, InBrackets, Text.endsIn]

theorem Clean.isDirective_iff {tags : Tags} (h : tags.Clean) {t : Text} (ht : t ∈ tags.toList) :
    isDirective t ↔ InBrackets t := by
  rw [Tags.isDirective_iff, (h t ht).2.trim_eq]

theorem filter_isDirective_dedupeAfter (seen ts : List Text) :
    (dedupeAfter seen ts).filter isDirective = ts.filter isDirective := by
  induction ts generalizing seen with
  | nil => rfl
  | cons t ts ih =>
    by_cases hd : isDirective t
    · rw [dedupeAfter, if_pos hd, List.filter_cons_of_pos hd, List.filter_cons_of_pos hd, ih]
    rw [dedupeAfter, if_neg hd, List.filter_cons_of_neg hd]
    split
    · exact ih seen
    · rw [List.filter_cons_of_neg hd, ih]

/-! ## Positions -/

/-- The tags at the positions that satisfy a condition, in their order. -/
def atPositions (tags : List Text) (p : Fin tags.length → Bool) : List Text :=
  ((List.finRange tags.length).filter p).map tags.get

theorem atPositions_cons (t : Text) (ts : List Text) (p : Fin (t :: ts).length → Bool) :
    atPositions (t :: ts) p = (if p 0 then [t] else []) ++ atPositions ts (p ·.succ) := by
  have hr : List.finRange (t :: ts).length = 0 :: (List.finRange ts.length).map Fin.succ :=
    List.finRange_succ
  rw [atPositions, hr, List.filter_cons, List.filter_map]
  cases p 0
  · exact List.map_map
  · exact congrArg (t :: ·) List.map_map

/-- The tag at a position is a directive, or no tag before it has its key, directives apart. -/
def Stays (tags : List Text) (i : Fin tags.length) : Prop :=
  isDirective tags[i] ∨ ∀ j < i, ¬isDirective tags[j] → key tags[j] ≠ key tags[i]

instance (tags : List Text) (i : Fin tags.length) : Decidable (Stays tags i) :=
  inferInstanceAs (Decidable (_ ∨ _))

/-- The tag at a position is a directive, or its key is not seen, be it among the keys given or in
the tags before it. -/
def StaysAfter (seen tags : List Text) (i : Fin tags.length) : Prop :=
  isDirective tags[i] ∨ key tags[i] ∉ keys (tags.take i) ++ seen

instance (seen tags : List Text) (i : Fin tags.length) : Decidable (StaysAfter seen tags i) :=
  inferInstanceAs (Decidable (_ ∨ _))

section
variable {seen ts : List Text} {t : Text}

theorem staysAfter_zero : StaysAfter seen (t :: ts) 0 ↔ isDirective t ∨ key t ∉ seen :=
  .rfl

theorem staysAfter_succ_of_isDirective (h : isDirective t) (i : Fin ts.length) :
    StaysAfter seen (t :: ts) i.succ ↔ StaysAfter seen ts i := by
  simp [StaysAfter, keys_cons_of_isDirective h]

theorem staysAfter_succ_of_not_isDirective (h : ¬isDirective t) (i : Fin ts.length) :
    StaysAfter seen (t :: ts) i.succ ↔ StaysAfter (key t :: seen) ts i := by
  -- The key of the first tag, which stands in front of those of the others, is seen by now.
  have hm (k : Text) : k ∈ key t :: keys (ts.take i) ++ seen ↔
      k ∈ keys (ts.take i) ++ key t :: seen :=
    List.perm_middle.symm.mem_iff
  rw [StaysAfter, StaysAfter, ← hm, ← keys_cons_of_not_isDirective h]
  rfl

theorem staysAfter_congr {seen' : List Text} (h : ∀ k, k ∈ seen ↔ k ∈ seen')
    (i : Fin ts.length) : StaysAfter seen ts i ↔ StaysAfter seen' ts i := by
  rw [StaysAfter, StaysAfter, List.mem_append, List.mem_append, h]

theorem staysAfter_nil_iff (i : Fin ts.length) : StaysAfter [] ts i ↔ Stays ts i := by
  rw [StaysAfter, List.append_nil, Stays]
  refine or_congr_right ?_
  constructor
  · intro hk j hj hd he
    apply hk
    rw [mem_keys]
    refine ⟨ts[j], ?_, hd, he⟩
    exact List.mem_take_iff_getElem.2 ⟨j, by omega, rfl⟩
  · intro hn hk
    obtain ⟨u, hu, hd, he⟩ := mem_keys.1 hk
    obtain ⟨j, hj, rfl⟩ := List.mem_take_iff_getElem.1 hu
    rw [Nat.lt_min] at hj
    exact hn ⟨j, hj.2⟩ hj.1 hd he

end

theorem dedupeAfter_eq_atPositions (seen ts : List Text) :
    dedupeAfter seen ts = atPositions ts (StaysAfter seen ts ·) := by
  induction ts generalizing seen with
  | nil => rfl
  | cons t ts ih =>
    rw [atPositions_cons]
    by_cases hd : isDirective t
    · simp only [staysAfter_zero, staysAfter_succ_of_isDirective hd]
      simp [dedupeAfter, hd, ih]
    simp only [staysAfter_zero, staysAfter_succ_of_not_isDirective hd]
    by_cases hs : key t ∈ seen
    · -- The key is seen anyway, so that it need not be noted again.
      have hc : ∀ k, k ∈ key t :: seen ↔ k ∈ seen := by simp [hs]
      simp [dedupeAfter, hd, hs, staysAfter_congr hc, ih]
    · simp [dedupeAfter, hd, hs, ih]

/-! ## What is left -/

theorem nodup_keys_dedupeAfter (seen ts : List Text) : (keys (dedupeAfter seen ts)).Nodup := by
  induction ts generalizing seen with
  | nil => exact .nil
  | cons t ts ih =>
    by_cases hd : isDirective t
    · rw [dedupeAfter, if_pos hd, keys_cons_of_isDirective hd]
      exact ih seen
    rw [dedupeAfter, if_neg hd]
    split
    · exact ih seen
    · rw [keys_cons_of_not_isDirective hd, List.nodup_cons, mem_keys_dedupeAfter]
      exact ⟨fun h => h.2 List.mem_cons_self, ih _⟩

/-- Some tags are what is left of others without repetitions: none is new, all directives are there
as often as before, and every key is there once. The order does not matter. -/
structure LeftOf (all left : List Text) : Prop where
  subset : left ⊆ all
  count : ∀ t, isDirective t → left.count t = all.count t
  nodup : (keys left).Nodup
  mem_keys_iff : ∀ k, k ∈ keys left ↔ k ∈ keys all

theorem leftOf_dedupe (tags : Tags) : LeftOf tags.toList tags.dedupe.toList where
  subset := (dedupeAfter_sublist _ _).subset
  count t ht := by
    rw [← List.count_filter ht, dedupe, filter_isDirective_dedupeAfter, List.count_filter ht]
  nodup := nodup_keys_dedupeAfter _ _
  mem_keys_iff k := mem_keys_dedupeAfter.trans (and_iff_left List.not_mem_nil)

theorem mem_keys_of_perm {ts us : List Text} (h : ts.Perm us) (k : Text) :
    k ∈ keys ts ↔ k ∈ keys us :=
  ((h.filter _).map key).mem_iff

theorem LeftOf.of_perm {all all' left : List Text} (h : LeftOf all left) (hp : all.Perm all') :
    LeftOf all' left where
  subset _ ht := hp.mem_iff.1 (h.subset ht)
  count t ht := (h.count t ht).trans (hp.count_eq t)
  nodup := h.nodup
  mem_keys_iff k := (h.mem_keys_iff k).trans (mem_keys_of_perm hp k)

/-- What is left of the same tags has the same directives and the same keys. -/
theorem LeftOf.alike {all left left' : List Text} (h : LeftOf all left) (h' : LeftOf all left') :
    (left.filter isDirective).Perm (left'.filter isDirective) ∧
      ∀ k, k ∈ keys left ↔ k ∈ keys left' := by
  refine ⟨List.perm_iff_count.2 fun t => ?_,
    fun k => (h.mem_keys_iff k).trans (h'.mem_keys_iff k).symm⟩
  by_cases ht : isDirective t
  · rw [List.count_filter ht, List.count_filter ht, h.count t ht, h'.count t ht]
  · rw [List.count_eq_zero_of_not_mem fun hm => ht (List.mem_filter.1 hm).2,
      List.count_eq_zero_of_not_mem fun hm => ht (List.mem_filter.1 hm).2]

theorem prefix_dedupe_append (a b : Tags) : a.dedupe.toList <+: (a ++ b).dedupe.toList := by
  simp only [dedupe, toList_append, dedupeAfter_append]
  exact List.prefix_append _ _

/-- A tag stays just if it is a directive or the first tag with its key, directives apart, and those
that stay keep their form and their order. In a sequence of trimmed tags the directives are the tags
in brackets. So no key is left twice, every key and every directive is left, and what is left of a
sequence begins what is left when it goes on. -/
theorem dedupe_first_wins (tags : Tags) :
    tags.dedupe.toList = atPositions tags.toList (Stays tags.toList ·) ∧
      (tags.Clean → ∀ t ∈ tags.toList, isDirective t ↔ InBrackets t) ∧
      (keys tags.dedupe.toList).Nodup ∧
      (∀ k, k ∈ keys tags.dedupe.toList ↔ k ∈ keys tags.toList) ∧
      tags.dedupe.toList.filter isDirective = tags.toList.filter isDirective ∧
      ∀ more : Tags, tags.dedupe.toList <+: (tags ++ more).dedupe.toList := by
  have hl := leftOf_dedupe tags
  refine ⟨?_, fun h _ => h.isDirective_iff, hl.nodup, hl.mem_keys_iff,
    filter_isDirective_dedupeAfter [] _, prefix_dedupe_append tags⟩
  rw [dedupe, dedupeAfter_eq_atPositions]
  simp only [staysAfter_nil_iff]

/-- A half bracket makes no directive, and a directive stays whatever stands before it. -/
theorem dedupe_first_wins_brackets :
    let tags := parse "[x, Red, [BREAK], RED, [X, [break], [BREAK], red hat".toList
    tags.Clean ∧ (∀ t ∈ tags.toList, isDirective t ↔ InBrackets t) ∧
      ((List.finRange _).filter (Stays tags.toList ·)).map Fin.val = [0, 1, 2, 5, 6, 7] ∧
      tags.dedupe.toList = atPositions tags.toList (Stays tags.toList ·) := by
  intro tags
  have hc : tags.Clean := clean_ofList _
  obtain ⟨hp, hb, -⟩ := dedupe_first_wins tags
  exact ⟨hc, hb hc, by decide +kernel, hp⟩

end Tags

end PromptWeave
