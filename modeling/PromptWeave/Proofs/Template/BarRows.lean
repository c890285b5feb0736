import Mathlib.Algebra.Group.Nat.Defs
import Mathlib.Logic.Function.Iterate
import PromptWeave.Proofs.Template.Alternatives
import PromptWeave.Proofs.Text.Cut

/-! Bars that stand in a row.

A bar with a space before it may follow another one, and so on; such a row ends where no further bar
follows. One pass of the merging halves all rows of a text and leaves everything else as it is
(`rebarred_iterate`). So the passes come to an end, after as many of them as it takes to halve the
longest row down to a single bar (`hasBarPair_iterate`), and then each row is a single bar
(`mergeBars_ends_in_single_bars`). -/

namespace PromptWeave

/-! ## Replacing -/

/-- The second text is the first one with `new` in all places of a mark. The places are found from
left to right, each behind the one before it. -/
inductive Text.Replaces (mark new : Text) : Text → Text → Prop
  | none {s : Text} : ¬mark <:+: s → Replaces mark new s s
  | first {s before after t : Text} : FirstAt mark s before after → Replaces mark new after t →
      Replaces mark new s (before ++ (new ++ t))

theorem Text.Replaces.cons {mark new s t : Text} {c : Char} (h : Replaces mark new s t)
    (hc : ¬mark <+: c :: s) : Replaces mark new (c :: s) (c :: t) := by
  cases h with
  | none h => exact .none fun hi => (List.infix_cons_iff.1 hi).elim hc h
  | @first _ before after t hf h =>
    have hf' : FirstAt mark (c :: s) (c :: before) after := by
      rw [← cut?_eq_some_iff, cut?_cons_of_not_starts hc, cut?_eq_some_iff.2 hf]
      rfl
    exact .first hf' h

namespace Template

/-! ## Rows -/

/-- A row of `n` bars, each with a space before it. -/
def barRow (n : Nat) : Text :=
  (List.replicate n [' ', '|']).flatten

@[simp] theorem barRow_zero : barRow 0 = [] := rfl

@[simp] theorem barRow_succ (n : Nat) : barRow (n + 1) = ' ' :: '|' :: barRow n := rfl

/-- The text begins with a row. -/
abbrev StartsRow (s : Text) : Prop :=
  [' ', '|'] <+: s

section
variable {f : Nat → Nat} {m n : Nat} {c : Char} {s t : Text}

theorem startsRow_barRow_append (h : 0 < n) (s : Text) : StartsRow (barRow n ++ s) := by
  obtain ⟨n, rfl⟩ := Nat.exists_eq_succ_of_ne_zero (Nat.ne_of_gt h)
  exact ⟨barRow n ++ s, rfl⟩

theorem startsRow_cons_iff : StartsRow (c :: s) ↔ c = ' ' ∧ s.head? = some '|' := by
  cases s <;> simp [StartsRow, List.cons_prefix_cons, eq_comm]

/-- Each text begins with a row, possibly an empty one, and no bar follows it. -/
theorem exists_eq_barRow_append (s : Text) : ∃ n t, s = barRow n ++ t ∧ ¬StartsRow t := by
  by_cases h : StartsRow s
  · obtain ⟨t, rfl⟩ := h
    obtain ⟨n, u, rfl, hu⟩ := exists_eq_barRow_append t
    exact ⟨n + 1, u, rfl, hu⟩
  · exact ⟨0, s, rfl, h⟩
termination_by s.length
decreasing_by
  subst_vars
  simp only [List.length_append, List.length_cons]
  omega

/-- A text is gone through row by row, and character by character where there is no row. -/
@[elab_as_elim]
theorem barRow_induction {motive : Text → Prop} (nil : motive [])
    (row : ∀ n s, 0 < n → ¬StartsRow s → motive s → motive (barRow n ++ s))
    (char : ∀ c s, ¬StartsRow (c :: s) → motive s → motive (c :: s))
    (s : Text) : motive s := by
  obtain ⟨n, t, hs, ht⟩ := exists_eq_barRow_append s
  cases n with
  | zero =>
    cases t with
    | nil => exact hs ▸ nil
    | cons c t => exact hs ▸ char c t ht (barRow_induction nil row char t)
  | succ n => exact hs ▸ row (n + 1) t (Nat.succ_pos n) ht (barRow_induction nil row char t)
termination_by s.length
decreasing_by
  all_goals
    subst hs
    simp only [barRow_zero, barRow_succ, List.nil_append, List.length_append, List.length_cons]
    omega

/-- A row that is not followed by a bar begins with all shorter rows and with no longer one. -/
theorem barRow_prefix_iff (h : ¬StartsRow s) : barRow m <+: barRow n ++ s ↔ m ≤ n := by
  induction m generalizing n with
  | zero => simp
  | succ m ih =>
    cases n with
    | zero =>
      refine iff_of_false (fun hp => h ?_) (by simp)
      exact (startsRow_barRow_append (Nat.succ_pos m) []).trans (by simpa using hp)
    | succ n => simp [List.cons_prefix_cons, ih]

theorem barRow_infix_of_le (h : m ≤ n) : barRow m <:+: barRow n := by
  have hp := (barRow_prefix_iff (s := []) (by decide)).2 h
  rw [List.append_nil] at hp
  exact hp.isInfix

theorem barRow_append_inj (hs : ¬StartsRow s) (ht : ¬StartsRow t)
    (h : barRow m ++ s = barRow n ++ t) : m = n ∧ s = t := by
  have hmn : m = n := Nat.le_antisymm
    ((barRow_prefix_iff ht).1 (h ▸ List.prefix_append _ _))
    ((barRow_prefix_iff hs).1 (h ▸ List.prefix_append _ _))
  subst hmn
  exact ⟨rfl, List.append_cancel_left h⟩

/-- A row that stands in a text lies within the row at its beginning or in what follows. -/
theorem barRow_infix_iff (h : ¬StartsRow s) :
    barRow (m + 1) <:+: barRow n ++ s ↔ m + 1 ≤ n ∨ barRow (m + 1) <:+: s := by
  induction n with
  | zero => simp
  | succ n ih =>
    have hp : barRow (m + 1) <+: ' ' :: '|' :: (barRow n ++ s) ↔ m + 1 ≤ n + 1 :=
      barRow_prefix_iff (n := n + 1) h
    have hb : ¬barRow (m + 1) <+: '|' :: (barRow n ++ s) := by simp [List.cons_prefix_cons]
    have hi : barRow (m + 1) <:+: barRow (n + 1) ++ s ↔
        m + 1 ≤ n + 1 ∨ m + 1 ≤ n ∨ barRow (m + 1) <:+: s := by
      rw [barRow_succ n, List.cons_append, List.cons_append, List.infix_cons_iff,
        List.infix_cons_iff, hp, ih, or_iff_right hb]
    rw [hi, ← or_assoc, or_iff_left_of_imp (fun hm => Nat.le_succ_of_le hm)]

/-! ## Other rows in the places of rows -/

/-- The second text is the first one with another row in the place of each row, whose length is `f`
of the length of that one. -/
inductive Rebarred (f : Nat → Nat) : Text → Text → Prop
  | nil : Rebarred f [] []
  | row {n : Nat} {s t : Text} : 0 < n → ¬StartsRow s → Rebarred f s t →
      Rebarred f (barRow n ++ s) (barRow (f n) ++ t)
  | char {c : Char} {s t : Text} : ¬StartsRow (c :: s) → Rebarred f s t →
      Rebarred f (c :: s) (c :: t)

namespace Rebarred

theorem head?_eq (h : Rebarred f s t) (hf : ∀ n, 0 < n → 0 < f n) : t.head? = s.head? := by
  cases h with
  | nil => rfl
  | @row n s t hn _ _ =>
    obtain ⟨k, hk⟩ := Nat.exists_eq_succ_of_ne_zero (Nat.ne_of_gt hn)
    obtain ⟨l, hl⟩ := Nat.exists_eq_succ_of_ne_zero (Nat.ne_of_gt (hf n hn))
    rw [hl, hk]
    rfl
  | char _ _ => rfl

theorem not_startsRow (h : Rebarred f s t) (hf : ∀ n, 0 < n → 0 < f n) (hs : ¬StartsRow s) :
    ¬StartsRow t := by
  cases h with
  | nil => exact hs
  | row hn _ _ => exact absurd (startsRow_barRow_append hn _) hs
  | char _ h =>
    rw [startsRow_cons_iff] at hs ⊢
    rwa [h.head?_eq hf]

theorem exists_of_row {u : Text} (h : Rebarred f (barRow n ++ s) u) (hn : 0 < n)
    (hs : ¬StartsRow s) : ∃ t, u = barRow (f n) ++ t ∧ Rebarred f s t := by
  generalize he : barRow n ++ s = w at h
  have hw : StartsRow w := he ▸ startsRow_barRow_append hn s
  cases h with
  | nil => exact absurd hw (by decide)
  | row _ hs' h =>
    obtain ⟨rfl, rfl⟩ := barRow_append_inj hs hs' he
    exact ⟨_, rfl, h⟩
  | char hc _ => exact absurd hw hc

theorem exists_of_char {u : Text} (h : Rebarred f (c :: s) u) (hc : ¬StartsRow (c :: s)) :
    ∃ t, u = c :: t ∧ Rebarred f s t := by
  generalize he : c :: s = w at h hc
  cases h with
  | nil => cases he
  | row hn _ _ => exact absurd (startsRow_barRow_append hn _) hc
  | char _ h =>
    cases he
    exact ⟨_, rfl, h⟩

theorem unique (h : Rebarred f s t) {t' : Text} (h' : Rebarred f s t') : t' = t := by
  induction h generalizing t' with
  | nil =>
    generalize he : ([] : Text) = w at h'
    cases h' with
    | nil => rfl
    | row hn _ _ => exact absurd (he ▸ startsRow_barRow_append hn _) (by decide)
    | char _ _ => cases he
  | row hn hs _ ih =>
    obtain ⟨u, rfl, hu⟩ := h'.exists_of_row hn hs
    rw [ih hu]
  | char hc _ ih =>
    obtain ⟨u, rfl, hu⟩ := h'.exists_of_char hc
    rw [ih hu]

/-- Only the rows that stand in the text matter. -/
theorem congr {g : Nat → Nat} (h : Rebarred f s t)
    (hg : ∀ n, 0 < n → barRow n <:+: s → f n = g n) : Rebarred g s t := by
  induction h with
  | nil => exact .nil
  | row hn hs _ ih =>
    rw [hg _ hn (List.prefix_append _ _).isInfix]
    exact .row hn hs (ih fun k hk hi => hg k hk (hi.trans (List.suffix_append _ _).isInfix))
  | char hc _ ih => exact .char hc (ih fun k hk hi => hg k hk (List.infix_cons hi))

theorem refl (s : Text) : Rebarred id s s := by
  induction s using barRow_induction with
  | nil => exact .nil
  | row n s hn hs ih => exact .row hn hs ih
  | char c s hc ih => exact .char hc ih

theorem trans {g : Nat → Nat} {u : Text} (h : Rebarred f s t) (hf : ∀ n, 0 < n → 0 < f n)
    (h' : Rebarred g t u) : Rebarred (g ∘ f) s u := by
  induction h generalizing u with
  | nil =>
    rw [Rebarred.nil.unique h']
    exact .nil
  | row hn hs h ih =>
    obtain ⟨u, rfl, hu⟩ := h'.exists_of_row (hf _ hn) (h.not_startsRow hf hs)
    exact .row hn hs (ih hu)
  | char hc h ih =>
    obtain ⟨u, rfl, hu⟩ := h'.exists_of_char ((Rebarred.char hc h).not_startsRow hf hc)
    exact .char hc (ih hu)

/-- A long row comes of a row that is long enough. -/
theorem barRow_infix_iff (h : Rebarred f s t) (hf : ∀ n, 0 < n → 0 < f n) {k : Nat}
    (hk : ∀ n, 0 < n → (m + 1 ≤ f n ↔ k + 1 ≤ n)) :
    barRow (m + 1) <:+: t ↔ barRow (k + 1) <:+: s := by
  induction h with
  | nil => simp
  | row hn hs h ih =>
    rw [Template.barRow_infix_iff (h.not_startsRow hf hs), Template.barRow_infix_iff hs,
      hk _ hn, ih]
  | @char c s t hc h ih =>
    have hp (l : Nat) {u : Text} (hu : ¬StartsRow (c :: u)) : ¬barRow (l + 1) <+: c :: u :=
      fun hp => hu ((startsRow_barRow_append (Nat.succ_pos l) []).trans (by simpa using hp))
    have ht : ¬StartsRow (c :: t) := (Rebarred.char hc h).not_startsRow hf hc
    rw [List.infix_cons_iff, List.infix_cons_iff, or_iff_right (hp m ht),
      or_iff_right (hp k hc), ih]

theorem count_comma (h : Rebarred f s t) : t.count ',' = s.count ',' := by
  have hr (n : Nat) : (barRow n).count ',' = 0 := by
    induction n with
    | zero => rfl
    | succ n ih => simpa using ih
  induction h with
  | nil => rfl
  | row _ _ _ ih => rw [List.count_append, List.count_append, hr, hr, ih]
  | char _ _ ih => rw [List.count_cons, List.count_cons, ih]

end Rebarred

/-! ## Passes -/

/-- One pass replaces the pairs of bars by single bars. -/
theorem replaces_mergeBarPairs (s : Text) :
    Text.Replaces (barRow 2) (barRow 1) s (mergeBarPairs s) := by
  fun_induction mergeBarPairs s with
  | case1 s ih =>
    have hf : Text.FirstAt (barRow 2) (barRow 2 ++ s) [] s := ⟨rfl, fun _ _ _ => Nat.zero_le _⟩
    exact .first hf ih
  | case2 c s hc ih =>
    refine ih.cons ?_
    rintro ⟨u, hu⟩
    simp at hu
    exact hc u hu.1.symm hu.2.symm
  | case3 => exact .none (by simp)

theorem hasBarPair_iff (s : Text) : hasBarPair s ↔ barRow 2 <:+: s := by
  fun_induction hasBarPair s with
  | case1 s => exact iff_of_true rfl ⟨[], s, rfl⟩
  | case2 c s hc ih =>
    rw [ih, List.infix_cons_iff, or_iff_right]
    rintro ⟨u, hu⟩
    simp at hu
    exact hc u hu.1.symm hu.2.symm
  | case3 => simp

/-- The length of a row after one pass. -/
def halved (n : Nat) : Nat :=
  (n + 1) / 2

theorem mergeBarPairs_cons (h : ¬StartsRow (c :: s)) :
    mergeBarPairs (c :: s) = c :: mergeBarPairs s := by
  rw [mergeBarPairs]
  rintro u rfl rfl
  exact h ⟨_, rfl⟩

theorem mergeBarPairs_barRow (h : ¬StartsRow s) (n : Nat) :
    mergeBarPairs (barRow n ++ s) = barRow (halved n) ++ mergeBarPairs s := by
  induction n using Nat.twoStepInduction with
  | zero => rfl
  | one =>
    have hb : mergeBarPairs ('|' :: s) = '|' :: mergeBarPairs s :=
      mergeBarPairs_cons (by simp)
    have hs : mergeBarPairs (' ' :: '|' :: s) = ' ' :: mergeBarPairs ('|' :: s) := by
      rw [mergeBarPairs]
      rintro u - hu
      exact h ⟨u, (List.cons.inj hu).2.symm⟩
    exact hs.trans (congrArg (' ' :: ·) hb)
  | more n ih _ =>
    have hh : halved (n + 2) = halved n + 1 := by simp [halved]; omega
    rw [hh]
    exact congrArg (' ' :: '|' :: ·) ih

theorem rebarred_mergeBarPairs (s : Text) : Rebarred halved s (mergeBarPairs s) := by
  induction s using barRow_induction with
  | nil => exact .nil
  | row n s hn hs ih =>
    rw [mergeBarPairs_barRow hs]
    exact .row hn hs ih
  | char c s hc ih =>
    rw [mergeBarPairs_cons hc]
    exact .char hc ih

theorem halved_iterate_pos (k : Nat) (h : 0 < n) : 0 < halved^[k] n := by
  induction k generalizing n with
  | zero => exact h
  | succ k ih => exact ih (Nat.div_pos (Nat.succ_le_succ h) (Nat.succ_pos 1))

theorem lt_halved_iterate_iff (k : Nat) : 1 < halved^[k] n ↔ 2 ^ k < n := by
  induction k generalizing n with
  | zero => rfl
  | succ k ih =>
    rw [Function.iterate_succ_apply, ih, halved, Nat.pow_succ]
    omega

/-- Passes shorten the rows of a text and change nothing else. -/
theorem rebarred_iterate (k : Nat) (s : Text) : Rebarred halved^[k] s (mergeBarPairs^[k] s) := by
  have hp : ∀ n, 0 < n → 0 < halved n := fun n => halved_iterate_pos 1
  induction k generalizing s with
  | zero => exact .refl s
  | succ k ih => exact (rebarred_mergeBarPairs s).trans hp (ih (mergeBarPairs s))

/-- A pair of bars is left after some passes just if there was a row that these do not halve down to
a single bar. -/
theorem hasBarPair_iterate (k : Nat) (s : Text) :
    hasBarPair (mergeBarPairs^[k] s) ↔ barRow (2 ^ k + 1) <:+: s := by
  rw [hasBarPair_iff]
  exact (rebarred_iterate k s).barRow_infix_iff (fun n => halved_iterate_pos k)
    fun n _ => lt_halved_iterate_iff k

/-- The merging makes passes until no pair of bars is left. -/
theorem exists_iterate_mergeBars (s : Text) :
    ∃ passes, mergeBars s = mergeBarPairs^[passes] s ∧
      ∀ k < passes, hasBarPair (mergeBarPairs^[k] s) := by
  fun_induction mergeBars s with
  | case1 s h ih =>
    obtain ⟨passes, he, hk⟩ := ih
    refine ⟨passes + 1, he, fun k hlt => ?_⟩
    cases k with
    | zero => exact h
    | succ k => exact hk k (Nat.lt_of_succ_lt_succ hlt)
  | case2 s _ => exact ⟨0, rfl, fun k hlt => absurd hlt (Nat.not_lt_zero k)⟩

theorem rebarred_mergeBars (s : Text) : Rebarred (fun _ => 1) s (mergeBars s) := by
  obtain ⟨passes, he, -⟩ := exists_iterate_mergeBars s
  have hb : ¬barRow (2 ^ passes + 1) <:+: s := by
    rw [← hasBarPair_iterate, ← he, hasBarPair_mergeBars]
    exact Bool.false_ne_true
  rw [he]
  refine (rebarred_iterate passes s).congr fun n hn hi => ?_
  have hlt : ¬1 < halved^[passes] n := fun hlt =>
    hb ((barRow_infix_of_le ((lt_halved_iterate_iff passes).1 hlt)).trans hi)
  exact Nat.le_antisymm (Nat.not_lt.1 hlt) (halved_iterate_pos passes hn)

/-- Passes are made as long as there is a pair of bars, and each of them replaces all pairs by
single bars. There is an end to this: after `k` passes a pair is left just if a row of more than `2
^ k` bars stands in the text. At the end no pair is left, and the text is the one with a single bar
in the place of each row. It has as many commas, and the segments between them offer the same
alternatives. -/
theorem mergeBars_ends_in_single_bars (s : Text) :
    (∀ t, Text.Replaces (barRow 2) (barRow 1) t (mergeBarPairs t)) ∧
      (∃ passes, mergeBars s = mergeBarPairs^[passes] s ∧
        ∀ k < passes, barRow 2 <:+: mergeBarPairs^[k] s) ∧
      (∀ k, barRow 2 <:+: mergeBarPairs^[k] s ↔ barRow (2 ^ k + 1) <:+: s) ∧
      ¬barRow 2 <:+: mergeBars s ∧
      (∀ t, Rebarred (fun _ => 1) s t ↔ t = mergeBars s) ∧
      (mergeBars s).count ',' = s.count ',' ∧
      segments (mergeBars s) = segments s := by
  have hr := rebarred_mergeBars s
  refine ⟨replaces_mergeBarPairs, ?_, fun k => ?_, ?_, fun t => ?_, hr.count_comma,
    segments_mergeBars s⟩
  · obtain ⟨passes, he, hk⟩ := exists_iterate_mergeBars s
    exact ⟨passes, he, fun k hlt => (hasBarPair_iff _).1 (hk k hlt)⟩
  · rw [← hasBarPair_iff, hasBarPair_iterate]
  · rw [← hasBarPair_iff, hasBarPair_mergeBars]
    exact Bool.false_ne_true
  · constructor
    · exact hr.unique
    · rintro rfl
      exact hr

end

end Template

end PromptWeave
