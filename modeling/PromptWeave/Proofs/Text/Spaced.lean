import Mathlib.Data.List.Forall2
import PromptWeave.Proofs.Text.Pieces

/-! Texts that differ in the spaces and tabs around their marks.

A spaced text has the same characters otherwise (`Spaced.count_eq`), and the relation is kept by
what is done to texts: they are trimmed, cut at a mark of any kind and joined again (`Spaced.trim`,
`Spaced.forall₂_trimmedPieces`, `Spaced.intercalate`). Blanks that come to stand at the end of a
piece are trimmed away with it, so the pieces are spaced only around the marks that they hold
themselves. -/

namespace PromptWeave

namespace Text

/-- A space or a tab. -/
def isSpacer (c : Char) : Bool :=
  c == ' ' || c == '\t'

/-- The second text is the first one with spaces and tabs put in front of some of its marks and
behind some. -/
inductive Spaced (marks : List Char) : Text → Text → Prop
  | nil : Spaced marks [] []
  | cons (c : Char) {s t : Text} : Spaced marks s t → Spaced marks (c :: s) (c :: t)
  | around {c : Char} {before after s t : Text} : c ∈ marks → (∀ b ∈ before, isSpacer b) →
      (∀ b ∈ after, isSpacer b) → Spaced marks s t →
      Spaced marks (c :: s) (before ++ c :: (after ++ t))

theorem isBlank_of_isSpacer {c : Char} (h : isSpacer c) : isBlank c := by
  simp only [isSpacer, Bool.or_eq_true, beq_iff_eq] at h
  rcases h with rfl | rfl <;> rfl

theorem not_mem_of_isSpacer {c : Char} {s : Text} (hc : isSpacer c = false)
    (h : ∀ b ∈ s, isSpacer b) : c ∉ s := by
  intro hm
  rw [h c hm] at hc
  cases hc

section
variable {mark : Char} {x : Text} (hmark : isSpacer mark = false) (hx : ∀ b ∈ x, isSpacer b)
include hmark hx

theorem trimmedPieces_append_spacers (s : Text) :
    trimmedPieces mark (s ++ x) = trimmedPieces mark s :=
  trimmedPieces_append_of_blank (fun b hb => isBlank_of_isSpacer (hx b hb))
    (not_mem_of_isSpacer hmark hx) s

theorem trimmedPieces_spacers_append (s : Text) :
    trimmedPieces mark (x ++ s) = trimmedPieces mark s :=
  trimmedPieces_of_blank_append (fun b hb => isBlank_of_isSpacer (hx b hb))
    (not_mem_of_isSpacer hmark hx) s

end

namespace Spaced

variable {marks marks' : List Char} {s t s' t' : Text}

theorem refl (s : Text) : Spaced marks s s := by
  induction s with
  | nil => exact .nil
  | cons c s ih => exact .cons c ih

section
variable {c : Char} {x : Text} (hc : c ∈ marks) (hx : ∀ b ∈ x, isSpacer b)
  (h : Spaced marks s t)
include hc hx h

theorem inFront : Spaced marks (c :: s) (x ++ c :: t) :=
  have hn : ∀ b ∈ ([] : Text), isSpacer b := nofun
  .around hc hx hn h

theorem behind : Spaced marks (c :: s) (c :: (x ++ t)) :=
  have hn : ∀ b ∈ ([] : Text), isSpacer b := nofun
  .around hc hn hx h

end

theorem append (h : Spaced marks s t) (h' : Spaced marks s' t') :
    Spaced marks (s ++ s') (t ++ t') := by
  induction h with
  | nil => exact h'
  | cons c _ ih => exact .cons c ih
  | around hc hb ha _ ih =>
    rw [List.cons_append, List.append_assoc, List.cons_append, List.append_assoc]
    exact .around hc hb ha ih

theorem reverse (h : Spaced marks s t) : Spaced marks s.reverse t.reverse := by
  induction h with
  | nil => exact .nil
  | cons c _ ih =>
    rw [List.reverse_cons, List.reverse_cons]
    exact ih.append (refl [c])
  | @around c before after s t hc hb ha _ ih =>
    have he : (before ++ c :: (after ++ t)).reverse =
        t.reverse ++ (after.reverse ++ c :: (before.reverse ++ [])) := by simp
    rw [List.reverse_cons, he]
    refine ih.append (.around hc ?_ ?_ .nil)
    · exact fun b hb' => ha b (List.mem_reverse.1 hb')
    · exact fun b hb' => hb b (List.mem_reverse.1 hb')

theorem eq_nil_iff (h : Spaced marks s t) : s = [] ↔ t = [] := by
  cases h <;> simp

/-- What stands in front of a place and what stands behind it are spaced apart. -/
theorem exists_of_append {x y u : Text} (h : Spaced marks (x ++ y) u) :
    ∃ x' y', u = x' ++ y' ∧ Spaced marks x x' ∧ Spaced marks y y' := by
  induction x generalizing u with
  | nil => exact ⟨[], u, rfl, .nil, h⟩
  | cons c x ih =>
    rw [List.cons_append] at h
    cases h with
    | cons _ h =>
      obtain ⟨x', y', rfl, hx, hy⟩ := ih h
      exact ⟨c :: x', y', rfl, .cons c hx, hy⟩
    | around hc hb ha h =>
      obtain ⟨x', y', rfl, hx, hy⟩ := ih h
      exact ⟨_, y', by simp, .around hc hb ha hx, hy⟩

/-! ## Characters -/

theorem count_eq (h : Spaced marks s t) {c : Char} (hc : isSpacer c = false) :
    t.count c = s.count c := by
  induction h with
  | nil => rfl
  | cons d _ ih => rw [List.count_cons, List.count_cons, ih]
  | around _ hb ha _ ih =>
    rw [List.count_append, List.count_cons, List.count_cons, List.count_append,
      List.count_eq_zero_of_not_mem (not_mem_of_isSpacer hc hb),
      List.count_eq_zero_of_not_mem (not_mem_of_isSpacer hc ha), ih, Nat.zero_add, Nat.zero_add]

theorem mem_iff (h : Spaced marks s t) {c : Char} (hc : isSpacer c = false) :
    c ∈ t ↔ c ∈ s := by
  rw [← List.count_pos_iff, ← List.count_pos_iff, h.count_eq hc]

/-- Only the marks that stand in a text matter. -/
theorem of_mem (h : Spaced marks s t) (hm : ∀ c ∈ marks, c ∈ s → c ∈ marks') :
    Spaced marks' s t := by
  induction h with
  | nil => exact .nil
  | cons c _ ih => exact .cons c (ih fun d hd hs => hm d hd (List.mem_cons_of_mem c hs))
  | around hc hb ha _ ih =>
    exact .around (hm _ hc List.mem_cons_self) hb ha
      (ih fun d hd hs => hm d hd (List.mem_cons_of_mem _ hs))

theorem eq_of_not_mem (h : Spaced marks s t) (hm : ∀ c ∈ marks, c ∉ s) : t = s := by
  induction h with
  | nil => rfl
  | cons c _ ih => rw [ih fun d hd => mt (List.mem_cons_of_mem c) (hm d hd)]
  | around hc _ _ _ _ => exact absurd List.mem_cons_self (hm _ hc)

theorem head?_eq (h : Spaced marks s t) (ht : ∀ c ∈ t.head?, isSpacer c = false) :
    t.head? = s.head? := by
  cases h with
  | nil | cons _ _ => rfl
  | @around c before after s t _ hb _ _ =>
    cases before with
    | nil => rfl
    | cons b before => exact absurd (hb b List.mem_cons_self) (Bool.eq_false_iff.1 (ht b rfl))

theorem getLast?_eq (h : Spaced marks s t) (ht : ∀ c ∈ t.getLast?, isSpacer c = false) :
    t.getLast? = s.getLast? := by
  rw [← List.head?_reverse, ← List.head?_reverse]
  exact h.reverse.head?_eq (List.head?_reverse ▸ ht)

/-- No blanks were added behind the last character if the text does not end in any. -/
theorem getLast?_eq_of_trimmed (h : Spaced marks s t) (ht : Trimmed t) :
    t.getLast? = s.getLast? := by
  refine h.getLast?_eq fun c hc => Bool.eq_false_iff.2 fun hs => ?_
  obtain ⟨hn, rfl⟩ := List.mem_getLast?_eq_getLast hc
  exact Bool.eq_false_iff.1 (ht.last hn) (isBlank_of_isSpacer hs)

theorem dropEndWhile_eq_self (h : Spaced marks s t) {p : Char → Bool}
    (hp : ∀ c, isSpacer c → p c = false) (hs : dropEndWhile p s = s) :
    dropEndWhile p t = t := by
  refine List.rdropWhile_eq_self_iff.2 fun hn hl => ?_
  have he : t.getLast? = s.getLast? := h.getLast?_eq fun c hc => Bool.eq_false_iff.2 fun hc' => by
    obtain ⟨_, rfl⟩ := List.mem_getLast?_eq_getLast hc
    exact Bool.eq_false_iff.1 (hp _ hc') hl
  rw [List.getLast?_eq_some_getLast hn] at he
  obtain ⟨hn', he⟩ := List.mem_getLast?_eq_getLast he.symm
  exact List.rdropWhile_eq_self_iff.1 hs hn' (he ▸ hl)

/-! ## Trimming and joining -/

section
variable (hm : ∀ c ∈ marks, isBlank c = false)
include hm

theorem trimStart (h : Spaced marks s t) : Spaced marks (trimStart s) (trimStart t) := by
  induction h with
  | nil => exact .nil
  | @cons c s t h ih =>
    by_cases hc : isBlank c
    · rw [Text.trimStart, Text.trimStart, List.dropWhile_cons_of_pos hc,
        List.dropWhile_cons_of_pos hc]
      exact ih
    · rw [Text.trimStart, Text.trimStart, List.dropWhile_cons_of_neg hc,
        List.dropWhile_cons_of_neg hc]
      exact .cons c h
  | @around c before after s t hc hb ha h ih =>
    have hc' : ¬isBlank c := by simp [hm c hc]
    rw [Text.trimStart, Text.trimStart, List.dropWhile_cons_of_neg hc',
      List.dropWhile_append_of_pos fun b hb' => isBlank_of_isSpacer (hb b hb'),
      List.dropWhile_cons_of_neg hc']
    exact .behind hc ha h

theorem trim (h : Spaced marks s t) : Spaced marks (trim s) (trim t) :=
  (trimStart hm (trimStart hm h).reverse).reverse

end

theorem intercalate {ss ts : List Text} (h : List.Forall₂ (Spaced marks) ss ts) (sep : Text) :
    Spaced marks (sep.intercalate ss) (sep.intercalate ts) := by
  induction h with
  | nil => exact .nil
  | @cons s t ss ts hst h ih =>
    cases h with
    | nil => simpa using hst
    | cons _ _ =>
      rw [List.intercalate_cons_cons, List.intercalate_cons_cons]
      exact (hst.append (refl sep)).append ih

/-! ## Pieces -/

theorem forall₂_filter {ss ts : List Text} (h : List.Forall₂ (Spaced marks) ss ts) :
    List.Forall₂ (Spaced marks) (ss.filter (· ≠ [])) (ts.filter (· ≠ [])) := by
  refine List.rel_filter (fun s t hst => ?_) h
  show decide (s ≠ []) = true ↔ decide (t ≠ []) = true
  rw [decide_eq_true_iff, decide_eq_true_iff]
  exact not_congr hst.eq_nil_iff

theorem map_eq_map {α : Type} {f : Text → α} {ss ts : List Text}
    (h : List.Forall₂ (Spaced marks) ss ts)
    (hf : ∀ s ∈ ss, ∀ t ∈ ts, Spaced marks s t → f t = f s) : ts.map f = ss.map f := by
  induction h with
  | nil => rfl
  | cons hst _ ih =>
    obtain ⟨hs, hss⟩ := List.forall_mem_cons.1 hf
    rw [List.map_cons, List.map_cons, hs _ List.mem_cons_self hst,
      ih fun s hs' t ht => hss s hs' t (List.mem_cons_of_mem _ ht)]

section
variable {mark : Char} (hmark : isSpacer mark = false)
include hmark
variable (hm : ∀ c ∈ marks, isBlank c = false)
include hm

theorem forall₂_trimmedPieces_of_not_mem (h : Spaced marks s t) (hs : mark ∉ s) :
    List.Forall₂ (Spaced marks) (trimmedPieces mark s) (trimmedPieces mark t) := by
  have ht : mark ∉ t := mt (h.mem_iff hmark).1 hs
  rw [trimmedPieces, trimmedPieces, pieces_of_not_mem hs, pieces_of_not_mem ht]
  exact forall₂_filter (.cons (h.trim hm) .nil)

/-- What was read since the last mark stands in front, for it is trimmed only when its piece is
complete. -/
theorem forall₂_trimmedPieces_append (h : Spaced marks s t) {u v : Text} (huv : Spaced marks u v)
    (hu : mark ∉ u) :
    List.Forall₂ (Spaced marks) (trimmedPieces mark (u ++ s)) (trimmedPieces mark (v ++ t)) := by
  induction h generalizing u v with
  | nil =>
    rw [List.append_nil, List.append_nil]
    exact forall₂_trimmedPieces_of_not_mem hmark hm huv hu
  | @cons c s t _ ih =>
    by_cases hc : c = mark
    · subst hc
      rw [trimmedPieces_append_cons, trimmedPieces_append_cons]
      exact List.rel_append (forall₂_trimmedPieces_of_not_mem hmark hm huv hu)
        (ih .nil List.not_mem_nil)
    · rw [List.append_cons, List.append_cons v]
      exact ih (huv.append (refl [c])) (by simp [hu, Ne.symm hc])
  | @around c before after s t hc hb ha _ ih =>
    by_cases hcm : c = mark
    · subst hcm
      rw [trimmedPieces_append_cons, ← List.append_assoc, trimmedPieces_append_cons,
        trimmedPieces_append_spacers hmark hb, trimmedPieces_spacers_append hmark ha]
      exact List.rel_append (forall₂_trimmedPieces_of_not_mem hmark hm huv hu)
        (ih .nil List.not_mem_nil)
    · have he : v ++ (before ++ c :: (after ++ t)) =
          v ++ (before ++ c :: (after ++ [])) ++ t := by simp
      rw [List.append_cons, he]
      exact ih (huv.append (.around hc hb ha .nil)) (by simp [hu, Ne.symm hcm])

/-- The trimmed pieces of a spaced text are spaced themselves, whether or not the text was cut at
one of the marks. -/
theorem forall₂_trimmedPieces (h : Spaced marks s t) :
    List.Forall₂ (Spaced marks) (trimmedPieces mark s) (trimmedPieces mark t) :=
  forall₂_trimmedPieces_append hmark hm h .nil List.not_mem_nil

end

end Spaced

end Text

end PromptWeave
