import PromptWeave.Proofs.Draw.InRange

/-! Sources whose answers are known beforehand.

A computation whose questions are settled takes from a script, one after the other, the indices that
are written down for them (`Draw.Asks.picks_script`). A steady source answers each count with an
index of its own, whatever it was asked before; all choices of a run then come from that one
function (`Draw.index_of_steady`). -/

namespace PromptWeave

/-! ## Scripts -/

/-- The next index of a script is taken where it is one of the possibilities, and the rest of the
list remains. -/
theorem Script.pick_of_drop {s : Script} {i n : Nat} {rest : List Nat}
    (h : s.indices.drop s.position = i :: rest) (hi : i < n) :
    (s.pick n).1 = i ∧ (s.pick n).2.indices.drop (s.pick n).2.position = rest := by
  have hl : s.position < s.indices.length := by
    apply Nat.lt_of_not_le
    intro hle
    rw [List.drop_eq_nil_of_le hle] at h
    cases h
  have hne : s.indices ≠ [] := List.ne_nil_of_length_pos (Nat.zero_lt_of_lt hl)
  rw [List.drop_eq_getElem_cons hl] at h
  obtain ⟨hw, hr⟩ := List.cons.inj h
  have hwanted : s.wanted = i := by
    rw [Script.wanted, Nat.mod_eq_of_lt hl, ← List.getElem_eq_getD 0 (h := hl), hw]
  constructor
  · rw [Script.pick, hwanted]
    exact Nat.min_eq_left (Nat.le_sub_one_of_lt hi)
  · simpa only [Script.pick, if_neg hne] using hr

namespace Draw

/-- Indices written down for the questions of a computation, each below its count, are the choices
that are made. -/
theorem Asks.picks_script {α : Type} {x : Draw α} {counts indices : List Nat} {s : Script}
    (h : x.Asks counts) (hi : List.Forall₂ (· < ·) indices counts)
    (hs : s.indices.drop s.position = indices) :
    (x.run s).picks = List.zipWith Pick.mk counts indices := by
  induction h generalizing indices s with
  | done a =>
    cases hi
    rfl
  | @ask n next counts _ ih =>
    cases hi with
    | cons hlt hi =>
      obtain ⟨hp, hr⟩ := Script.pick_of_drop hs hlt
      have hn := ih (s.pick n).1 hi hr
      show Pick.mk n (s.pick n).1 :: ((next (s.pick n).1).run (s.pick n).2).picks = _
      rw [hn, hp, List.zipWith_cons_cons]
  | tell _ ih => exact ih hi hs

end Draw

/-! ## Steady sources -/

section
variable {σ α : Type} [Source σ] {f : Nat → Nat} {s : σ}

/-- The source that is left after choices among the given counts. -/
def Source.after (s : σ) (counts : List Nat) : σ :=
  counts.foldl (fun s n => (Source.pick s n).2) s

/-- The index for a count is that of `f`, whatever choices were made before. -/
def Source.Steady (f : Nat → Nat) (s : σ) : Prop :=
  ∀ (counts : List Nat) (count : Nat), (Source.pick (Source.after s counts) count).1 = f count

theorem Source.Steady.pick (h : Source.Steady f s) (count : Nat) :
    Source.Steady f (Source.pick s count).2 :=
  fun counts => h (count :: counts)

theorem Draw.index_of_steady (h : Source.Steady f s) (x : Draw α) :
    ∀ p ∈ (x.run s).picks, p.index = f p.count := by
  induction x generalizing s with
  | done a => exact nofun
  | ask n next ih => exact List.forall_mem_cons.2 ⟨h [] n, ih _ (h.pick n)⟩
  | tell r next ih => exact ih h

theorem Draw.AsksSome.pos_of_mem_picks {x : Draw α} (h : x.AsksSome) (s : σ) :
    ∀ p ∈ (x.run s).picks, 0 < p.count := by
  induction x generalizing s with
  | done a => exact nofun
  | ask n next ih => exact List.forall_mem_cons.2 ⟨h.1, ih _ (h.2 _) _⟩
  | tell r next ih => exact ih h s

/-- A steady source whose indices are below their counts keeps within range. -/
theorem Draw.AsksSome.inRange_of_steady {x : Draw α} (h : x.AsksSome) (hs : Source.Steady f s)
    (hf : ∀ n, 0 < n → f n < n) : (x.run s).InRange := by
  intro p hp
  rw [Draw.index_of_steady hs x p hp]
  exact hf _ (h.pos_of_mem_picks s p hp)

end

/-- A script with a single index always gives it, or the last of the possibilities. -/
theorem Script.steady_always (index : Nat) :
    Source.Steady (fun n => min index (n - 1)) (Script.always index) := by
  have hk : ∀ (counts : List Nat) (s : Script), s.indices = [index] →
      (Source.after s counts).indices = [index] := by
    intro counts
    induction counts with
    | nil => exact fun s hs => hs
    | cons n counts ih => exact fun s hs => ih (s.pick n).2 hs
  intro counts count
  have hi := hk counts (Script.always index) rfl
  show min (Source.after (Script.always index) counts).wanted (count - 1) = _
  rw [Script.wanted, hi, List.length_singleton, Nat.mod_one]
  rfl

end PromptWeave
