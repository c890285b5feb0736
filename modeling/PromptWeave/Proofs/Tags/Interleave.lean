import Mathlib.Algebra.GroupWithZero.Nat
import Mathlib.Algebra.Order.BigOperators.Group.List
import Mathlib.Algebra.Order.Group.Nat
import Mathlib.Data.List.NodupEquivFin
import PromptWeave.Proofs.Tags.Combine

/-! Where the tags of sequences stand after interleaving.

Each round of an interleaving takes one tag of every sequence that still has one. So the tags of all
earlier rounds, and those that the same round took of earlier sequences, stand in front of a tag
(`place`), and this settles the whole order (`interleave_places`). Empty sequences take part in no
round (`interleave_filter`). -/

namespace PromptWeave

namespace Tags

/-- The index at which the tag at position `i` of sequence `s` comes to stand: each sequence has
given as many tags as it could in the rounds before, and earlier sequences that are long enough have
given one in this round. -/
def place (sequences : List Tags) (s i : Nat) : Nat :=
  (sequences.map fun tags => min tags.size i).sum +
    (sequences.take s).countP fun tags => i < tags.size

section
variable {sequences before after : List Tags} {tags : Tags} {s i : Nat}

/-! ## One round -/

theorem toList_get? (h : i < tags.toList.length) : (tags.get? i).toList = [tags.toList[i]] := by
  rw [get?, List.getElem?_eq_getElem h, Option.toList_some]

theorem get?_eq_none (h : ¬i < tags.size) : tags.get? i = none :=
  List.getElem?_eq_none_iff.2 (Nat.le_of_not_lt h)

theorem length_column (sequences : List Tags) (i : Nat) :
    (column sequences i).length = sequences.countP fun tags => i < tags.size := by
  induction sequences with
  | nil => rfl
  | cons tags sequences ih =>
    rw [column_cons, List.length_append, ih]
    by_cases h : i < tags.size
    · rw [toList_get? h, List.countP_cons_of_pos (by simpa), List.length_singleton, Nat.add_comm]
    · rw [get?_eq_none h, List.countP_cons_of_neg (by simpa using h), Option.toList_none,
        List.length_nil, Nat.zero_add]

theorem exists_eq_append (h : sequences[s]? = some tags) :
    ∃ before after, sequences = before ++ tags :: after ∧ sequences.take s = before := by
  obtain ⟨hs, rfl⟩ := List.getElem?_eq_some_iff.1 h
  refine ⟨_, sequences.drop (s + 1), ?_, rfl⟩
  rw [List.getElem_cons_drop, List.take_append_drop]

/-- In a round, the tags of earlier sequences stand in front. -/
theorem getElem?_column (h : sequences[s]? = some tags) (hi : i < tags.size) :
    (column sequences i)[(sequences.take s).countP fun tags => i < tags.size]? = tags.get? i := by
  obtain ⟨before, after, rfl, hb⟩ := exists_eq_append h
  have hc : column (before ++ tags :: after) i =
      column before i ++ ((tags.get? i).toList ++ column after i) := by
    rw [← column_cons]
    exact List.filterMap_append
  rw [hb, ← length_column, hc, List.getElem?_append_right (Nat.le_refl _), Nat.sub_self,
    toList_get? hi]
  exact (List.getElem?_eq_getElem hi).symm

theorem countP_take_lt (h : sequences[s]? = some tags) (hi : i < tags.size) :
    (sequences.take s).countP (fun tags => i < tags.size) <
      sequences.countP fun tags => i < tags.size := by
  obtain ⟨before, after, rfl, hb⟩ := exists_eq_append h
  rw [hb, List.countP_append, List.countP_cons_of_pos (by simpa)]
  omega

/-! ## The rounds before -/

theorem sum_min_succ (sequences : List Tags) (i : Nat) :
    (sequences.map fun tags => min tags.size (i + 1)).sum =
      (sequences.map fun tags => min tags.size i).sum +
        sequences.countP fun tags => i < tags.size := by
  induction sequences with
  | nil => rfl
  | cons tags sequences ih =>
    rw [List.map_cons, List.map_cons, List.sum_cons, List.sum_cons, ih, List.countP_cons]
    by_cases h : i < tags.size
    · simp only [h, decide_true, if_true]
      omega
    · simp only [h, decide_false, Bool.false_eq_true, if_false]
      omega

theorem length_columns (sequences : List Tags) (i : Nat) :
    ((List.range i).flatMap (column sequences)).length =
      (sequences.map fun tags => min tags.size i).sum := by
  induction i with
  | zero => simp
  | succ i ih =>
    rw [List.range_succ, List.flatMap_append, List.length_append, ih, List.flatMap_singleton,
      length_column, sum_min_succ]

/-- What a round takes stands behind the rounds before it. -/
theorem getElem?_flatMap_range {α : Type} {f : Nat → List α} {m k : Nat} (hi : i < m)
    (hk : k < (f i).length) :
    ((List.range m).flatMap f)[((List.range i).flatMap f).length + k]? = (f i)[k]? := by
  obtain ⟨r, rfl⟩ := Nat.exists_eq_add_of_le (Nat.succ_le_of_lt hi)
  rw [List.range_add, List.range_succ, List.flatMap_append, List.flatMap_append,
    List.flatMap_singleton, List.append_assoc, List.getElem?_append_right (Nat.le_add_right _ k),
    Nat.add_sub_cancel_left, List.getElem?_append_left hk]

theorem size_le_longest (h : tags ∈ sequences) : tags.size ≤ longest sequences := by
  induction sequences with
  | nil => nomatch h
  | cons first sequences ih =>
    rcases List.mem_cons.1 h with rfl | h
    · exact Nat.le_max_left _ _
    · exact Nat.le_trans (ih h) (Nat.le_max_right _ _)

/-! ## All rounds -/

theorem get?_interleave_place (h : sequences[s]? = some tags) (hi : i < tags.size) :
    (interleave sequences).get? (place sequences s i) = tags.get? i := by
  have hl : i < longest sequences :=
    Nat.lt_of_lt_of_le hi (size_le_longest (List.mem_of_getElem? h))
  have hk := countP_take_lt h hi
  rw [← length_column sequences] at hk
  rw [← getElem?_column h hi, place, ← length_columns]
  exact getElem?_flatMap_range hl hk

theorem size_interleave (sequences : List Tags) :
    (interleave sequences).size = (sequences.map size).sum := by
  refine (length_columns sequences _).trans
    (congrArg List.sum (List.map_congr_left fun tags h => ?_))
  exact Nat.min_eq_left (size_le_longest h)

/-- A later position of a sequence comes to stand at a later index. -/
theorem place_lt_place {j : Nat} (h : sequences[s]? = some tags) (hi : i < tags.size) (hj : i < j) :
    place sequences s i < place sequences s j := by
  have hm : (sequences.map fun tags => min tags.size (i + 1)).sum ≤
      (sequences.map fun tags => min tags.size j).sum :=
    List.sum_le_sum fun tags _ => by omega
  have hc := countP_take_lt h hi
  rw [sum_min_succ] at hm
  unfold place
  omega

theorem perm_columns {m : Nat} (h : ∀ tags ∈ sequences, tags.size ≤ m) :
    ((List.range m).flatMap (column sequences)).Perm (sequences.flatMap toList) := by
  induction sequences with
  | nil => simp [column]
  | cons tags sequences ih =>
    obtain ⟨ht, hs⟩ := List.forall_mem_cons.1 h
    have hc : column (tags :: sequences) = fun i => (tags.get? i).toList ++ column sequences i :=
      funext fun i => column_cons
    rw [hc, List.flatMap_cons]
    -- All rounds together take the first sequence in its order, apart from what they take of the
    -- others.
    have hp := List.flatMap_append_perm (List.range m) (fun i => (tags.get? i).toList)
      (column sequences)
    rw [flatMap_range_get? ht] at hp
    exact hp.symm.trans ((ih hs).append_left _)

theorem perm_interleave (sequences : List Tags) :
    (interleave sequences).toList.Perm (sequences.flatMap toList) :=
  perm_columns fun _ => size_le_longest

/-- Each sequence is found again, in its own order. -/
theorem sublist_interleave (h : sequences[s]? = some tags) :
    tags.toList.Sublist (interleave sequences).toList := by
  have hg (i : Fin tags.size) :
      (interleave sequences).toList[place sequences s i]? = some tags.toList[i] :=
    (get?_interleave_place h i.2).trans (List.getElem?_eq_getElem i.2)
  have hl (i : Fin tags.size) : place sequences s i < (interleave sequences).toList.length :=
    (List.getElem?_eq_some_iff.1 (hg i)).1
  refine List.sublist_iff_exists_fin_orderEmbedding_get_eq.2
    ⟨OrderEmbedding.ofStrictMono (fun i => ⟨place sequences s i, hl i⟩) ?_, ?_⟩
  · exact fun i j hij => place_lt_place h i.2 hij
  · exact fun i => ((List.getElem?_eq_some_iff.1 (hg i)).2).symm

end

/-! ## Merging -/

theorem column_filter (sequences : List Tags) (i : Nat) :
    column (sequences.filter (!·.isEmpty)) i = column sequences i := by
  induction sequences with
  | nil => rfl
  | cons tags sequences ih =>
    obtain ⟨ts⟩ := tags
    cases ts with
    | nil => exact ih
    | cons t ts => exact (column_cons.trans (congrArg _ ih)).trans column_cons.symm

theorem longest_filter (sequences : List Tags) :
    longest (sequences.filter (!·.isEmpty)) = longest sequences := by
  induction sequences with
  | nil => rfl
  | cons tags sequences ih =>
    obtain ⟨ts⟩ := tags
    cases ts with
    | nil => exact ih.trans (Nat.zero_max _).symm
    | cons t ts => exact congrArg (max _) ih

/-- Empty sequences can be left in or out. -/
theorem interleave_filter (sequences : List Tags) :
    interleave (sequences.filter (!·.isEmpty)) = interleave sequences := by
  rw [interleave, interleave, longest_filter, funext (column_filter sequences)]

/-- The tag at each position of each sequence stands at the index given by `place`. So the whole is
a rearrangement of the sequences one after the other, with each of them in its own order. And a
merge that interleaves does just this with a node's own tags and those of its inputs, whether these
are empty or not, and makes no choice. -/
theorem interleave_places (sequences : List Tags) :
    (interleave sequences).size = (sequences.map size).sum ∧
    (∀ (s : Fin sequences.length) (i : Fin sequences[s].size),
      (interleave sequences).get? (place sequences s i) = some sequences[s].toList[i]) ∧
    (interleave sequences).toList.Perm (sequences.flatMap toList) ∧
    (∀ s : Fin sequences.length, sequences[s].toList.Sublist (interleave sequences).toList) ∧
    ∀ (own : Tags) (inputs : List Tags) (switchIndex : Nat),
      combine .combine own inputs switchIndex = pure (interleave (own :: inputs)) := by
  have hs (s : Fin sequences.length) : sequences[s.val]? = some sequences[s] :=
    List.getElem?_eq_getElem s.2
  refine ⟨size_interleave sequences, fun s i => ?_, ?_, fun s => sublist_interleave (hs s), ?_⟩
  · rw [get?_interleave_place (hs s) i.2]
    exact List.getElem?_eq_getElem i.2
  · exact perm_columns fun tags h => size_le_longest h
  · intro own inputs switchIndex
    rw [combine, interleave_filter]

example :
    let sequences := [parse "a, b".toList, empty, parse "c, d, e".toList, parse "f".toList]
    place sequences 0 1 = 3 ∧ place sequences 2 1 = 4 ∧ place sequences 2 2 = 5 := by
  decide

end Tags

end PromptWeave
