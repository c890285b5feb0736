import Mathlib.Data.List.Basic
import PromptWeave.Text.Basic

/-! Where a text is cut.

`Text.cut?` finds the first place where a mark stands (`cut?_eq_some_iff`), and fails only if there
is none. In a text that was put together with a mark, the first place may lie before the one that
was meant, also where the part in front does not hold the mark: the mark may begin in that part
and end in the meant one (`exists_overlap`). -/

namespace PromptWeave

namespace Text

variable {mark s before after : Text}

/-- The first place where a mark stands in a text is between two parts. -/
def FirstAt (mark s before after : Text) : Prop :=
  s = before ++ (mark ++ after) ∧
    ∀ before' after', s = before' ++ (mark ++ after') → before.length ≤ before'.length

theorem cut?_of_starts (h : mark <+: s) : cut? mark s = some ([], s.drop mark.length) := by
  cases s with
  | nil => simp [cut?, List.prefix_nil.1 h]
  | cons c s => simp [cut?, List.isPrefixOf_iff_prefix.2 h]

theorem cut?_cons_of_not_starts {c : Char} (h : ¬mark <+: c :: s) :
    cut? mark (c :: s) = (cut? mark s).map fun (before, after) => (c :: before, after) := by
  rw [cut?, if_neg (fun hp => h (List.isPrefixOf_iff_prefix.1 hp))]

theorem cut?_eq_none_iff : cut? mark s = none ↔ ¬mark <:+: s := by
  induction s with
  | nil => simp [cut?]
  | cons c s ih =>
    by_cases hp : mark <+: c :: s
    · simp [cut?_of_starts hp, hp.isInfix]
    · simp [cut?_cons_of_not_starts hp, List.infix_cons_iff, hp, ih]

theorem length_le_of_cut? (h : cut? mark s = some (before, after)) {before' after' : Text}
    (hs : s = before' ++ (mark ++ after')) : before.length ≤ before'.length := by
  induction s generalizing before before' with
  | nil =>
    have := eq_of_cut? h
    simp_all
  | cons c s ih =>
    by_cases hp : mark <+: c :: s
    · rw [cut?_of_starts hp] at h
      cases h
      exact Nat.zero_le _
    · rw [cut?_cons_of_not_starts hp] at h
      obtain ⟨⟨b, a⟩, hb, he⟩ := Option.map_eq_some_iff.1 h
      cases he
      cases before' with
      | nil => exact absurd ⟨after', hs.symm⟩ hp
      | cons d before' => exact Nat.succ_le_succ (ih hb (List.cons.inj hs).2)

theorem FirstAt.unique (h : FirstAt mark s before after) {before' after' : Text}
    (h' : FirstAt mark s before' after') : before' = before ∧ after' = after := by
  have hl : before'.length = before.length := Nat.le_antisymm (h'.2 _ _ h.1) (h.2 _ _ h'.1)
  obtain ⟨rfl, he⟩ := List.append_inj (h'.1.symm.trans h.1) hl
  exact ⟨rfl, List.append_cancel_left he⟩

theorem firstAt_of_cut? (h : cut? mark s = some (before, after)) : FirstAt mark s before after :=
  ⟨by simpa using eq_of_cut? h, fun _ _ => length_le_of_cut? h⟩

/-- A text is cut at the first place where the mark stands. -/
theorem cut?_eq_some_iff : cut? mark s = some (before, after) ↔ FirstAt mark s before after := by
  refine ⟨firstAt_of_cut?, fun h => ?_⟩
  cases hc : cut? mark s with
  | none => exact absurd ⟨before, after, by rw [h.1, List.append_assoc]⟩ (cut?_eq_none_iff.1 hc)
  | some parts =>
    obtain ⟨rfl, rfl⟩ := h.unique (firstAt_of_cut? hc)
    rfl

theorem exists_firstAt (h : mark <:+: s) : ∃ before after, FirstAt mark s before after := by
  cases hc : cut? mark s with
  | none => exact absurd h (cut?_eq_none_iff.1 hc)
  | some parts => exact ⟨_, _, cut?_eq_some_iff.1 hc⟩

/-- The mark does not stand in the part before its first place. -/
theorem FirstAt.not_infix_before (hm : mark ≠ []) (h : FirstAt mark s before after) :
    ¬mark <:+: before := by
  rintro ⟨x, y, rfl⟩
  have hl := h.2 x (y ++ (mark ++ after)) (by rw [h.1]; simp)
  have := List.length_pos_of_ne_nil hm
  simp only [List.length_append] at hl
  omega

/-- An earlier place of the mark lies in the part in front, or it reaches into the later place: then
a beginning `x` of the mark ends the part in front, and the rest `y` begins the mark again. -/
theorem exists_overlap {before' after' : Text}
    (h : before ++ (mark ++ after) = before' ++ (mark ++ after'))
    (hl : before'.length < before.length) :
    mark <:+: before ∨
      ∃ x y, x ≠ [] ∧ y ≠ [] ∧ mark = x ++ y ∧ y <+: mark ∧ x <:+ before := by
  rcases List.append_eq_append_iff.1 h with ⟨x, rfl, -⟩ | ⟨x, rfl, hx⟩
  · rw [List.length_append] at hl
    omega
  have hne : x ≠ [] := by
    rintro rfl
    simp at hl
  rcases List.append_eq_append_iff.1 hx with ⟨y, rfl, -⟩ | ⟨y, hm, hy⟩
  · exact .inl ⟨before', y, by simp⟩
  by_cases hy0 : y = []
  · exact .inl ⟨before', [], by simp [hm, hy0]⟩
  · have hp : y <+: mark := by
      refine List.prefix_of_prefix_length_le ⟨after', hy.symm⟩ ⟨after, rfl⟩ ?_
      simp [hm]
    exact .inr ⟨x, y, hne, hy0, hm, hp, before', rfl⟩

/-- A mark between two parts is the first one just if the part in front neither holds the mark nor
ends in a beginning of it that a later beginning of the mark completes. -/
theorem firstAt_append_iff (hm : mark ≠ []) :
    FirstAt mark (before ++ (mark ++ after)) before after ↔
      ¬mark <:+: before ∧
        ∀ x y, x ≠ [] → y ≠ [] → mark = x ++ y → y <+: mark → ¬x <:+ before := by
  constructor
  · refine fun h => ⟨h.not_infix_before hm, ?_⟩
    rintro x y hx - hxy ⟨z, hz⟩ ⟨q, rfl⟩
    have he : q ++ x ++ (mark ++ after) = q ++ (mark ++ (z ++ after)) :=
      calc q ++ x ++ (mark ++ after) = q ++ x ++ (y ++ z ++ after) := by rw [hz]
        _ = q ++ (x ++ y ++ (z ++ after)) := by simp
        _ = q ++ (mark ++ (z ++ after)) := by rw [hxy]
    have hl := h.2 q (z ++ after) he
    have := List.length_pos_of_ne_nil hx
    simp only [List.length_append] at hl
    omega
  · rintro ⟨hi, ho⟩
    refine ⟨rfl, fun before' after' h => Nat.le_of_not_lt fun hl => ?_⟩
    rcases exists_overlap h hl with h' | ⟨x, y, hx, hy, hxy, hp, hs⟩
    · exact hi h'
    · exact ho x y hx hy hxy hp hs

end Text

end PromptWeave
