import Mathlib.Data.Char
import Mathlib.Data.List.Lex
import PromptWeave.Json.Basic

/-! Members that are sorted by their keys.

Members that are put in one after the other come out sorted, in whichever order they came
(`Sorted.insert`), and sorted ones come out as they are (`insert_eq_append`). -/

namespace PromptWeave

/-- Texts are listed in the order of their characters. -/
theorem Text.before_iff_lt {s t : Text} : before s t ↔ s < t := by
  induction s generalizing t with
  | nil => cases t <;> simp [before]
  | cons c s ih =>
    cases t with
    | nil => simp [before]
    | cons d t => simp [before, List.cons_lt_cons_iff, ih]

namespace Json

namespace Members

/-- The keys rise from member to member. -/
def Sorted (members : Members) : Prop :=
  members.Pairwise fun m n => m.1 < n.1

theorem mem_of_mem_insert {members : Members} {key : Text} {value : Json} {m : Text × Json}
    (h : m ∈ members.insert key value) : m = (key, value) ∨ m ∈ members := by
  induction members with
  | nil => exact .inl (List.mem_singleton.1 h)
  | cons n members ih =>
    obtain ⟨k, v⟩ := n
    unfold insert at h
    split at h
    · exact (List.mem_cons.1 h).imp_right (List.mem_cons_of_mem _)
    split at h
    · exact List.mem_cons.1 h
    · rcases List.mem_cons.1 h with rfl | h
      · exact .inr List.mem_cons_self
      · exact (ih h).imp_right (List.mem_cons_of_mem _)

theorem Sorted.insert {members : Members} (h : members.Sorted) (key : Text) (value : Json) :
    (members.insert key value).Sorted := by
  induction members with
  | nil => exact List.pairwise_singleton ..
  | cons n members ih =>
    obtain ⟨k, v⟩ := n
    obtain ⟨hk, hs⟩ := List.pairwise_cons.1 h
    unfold Members.insert
    split
    · rename_i he
      exact List.pairwise_cons.2 ⟨fun m hm => he ▸ hk m hm, hs⟩
    split
    · rename_i hb
      have hlt : key < k := Text.before_iff_lt.1 hb
      refine List.pairwise_cons.2 ⟨fun m hm => ?_, h⟩
      rcases List.mem_cons.1 hm with rfl | hm
      · exact hlt
      · exact hlt.trans (hk m hm)
    · rename_i hne hb
      refine List.pairwise_cons.2 ⟨fun m hm => ?_, ih hs⟩
      rcases mem_of_mem_insert hm with rfl | hm
      · exact lt_of_le_of_ne (not_lt.1 fun hlt => hb (Text.before_iff_lt.2 hlt)) hne
      · exact hk m hm

/-- A key behind all others goes to the end. -/
theorem insert_eq_append {members : Members} {key : Text} (h : ∀ m ∈ members, m.1 < key)
    (value : Json) : members.insert key value = members ++ [(key, value)] := by
  induction members with
  | nil => rfl
  | cons n members ih =>
    obtain ⟨k, v⟩ := n
    obtain ⟨hk, hs⟩ := List.forall_mem_cons.1 h
    have hb : ¬Text.before key k := fun hb => hk.not_gt (Text.before_iff_lt.1 hb)
    rw [insert, if_neg hk.ne, if_neg hb, ih hs, List.cons_append]

end Members

end Json

end PromptWeave
