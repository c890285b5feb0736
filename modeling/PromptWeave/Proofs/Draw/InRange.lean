import PromptWeave.Draw.Script
import PromptWeave.Draw.Seeded
import PromptWeave.Proofs.Draw.Questions

/-! Choices among possibilities.

A computation may never ask for a choice where there is nothing to choose (`Draw.AsksSome`). A
source whose indices are below every count above zero therefore answers all the questions of a run
within range (`Draw.AsksSome.inRange`). -/

namespace PromptWeave

/-- A source that takes one of the possibilities wherever there are any. -/
class LawfulSource (σ : Type) [Source σ] : Prop where
  pick_lt (s : σ) {count : Nat} : 0 < count → (Source.pick s count).1 < count

instance : LawfulSource Script := ⟨Script.pick_lt⟩

/-- A double word times the count has less than the count before the point. -/
theorem Seeded.search_lt {count : Nat} (h : 0 < count) (attempts : Nat) (s : Seeded) :
    (search count attempts s).1 < count := by
  induction attempts generalizing s with
  | zero => exact h
  | succ attempts ih =>
    simp only [search]
    split
    · exact Nat.div_lt_of_lt_mul (Nat.mul_lt_mul_of_pos_right s.next.1.toNat_lt h)
    · exact ih _

instance : LawfulSource Seeded where
  pick_lt s count h := by
    show (s.pick count).1 < count
    rw [Seeded.pick, if_neg (Nat.ne_of_gt h)]
    exact Seeded.search_lt h 1024 s

namespace Draw

/-! ## Runs -/

/-- Each choice of a run took one of the possibilities. -/
def Outcome.InRange {σ α : Type} (o : Outcome σ α) : Prop :=
  ∀ p ∈ o.picks, p.index < p.count

section
variable {σ α β : Type} [Source σ]

@[simp] theorem run_map (f : α → β) (x : Draw α) (s : σ) :
    (f <$> x).run s =
      ⟨f (x.run s).value, (x.run s).source, (x.run s).picks, (x.run s).reports⟩ := by
  rw [map_eq_pure_bind, run_bind]
  simp only [run_pure, List.append_nil]

theorem inRange_bind {x : Draw α} {f : α → Draw β} {s : σ} :
    ((x >>= f).run s).InRange ↔
      (x.run s).InRange ∧ ((f (x.run s).value).run (x.run s).source).InRange := by
  simp only [Outcome.InRange, run_bind, List.forall_mem_append]

end

/-! ## Questions -/

/-- Whatever the answers are, a computation asks only where there are possibilities. -/
def AsksSome {α : Type} : Draw α → Prop
  | done _ => True
  | ask count next => 0 < count ∧ ∀ i, (next i).AsksSome
  | tell _ next => next.AsksSome

section
variable {α β : Type}

theorem asksSome_pure (a : α) : (pure a : Draw α).AsksSome := trivial

/-- A computation whose questions are settled asks only where there are possibilities if each of
its counts is above zero. -/
theorem Asks.asksSome {x : Draw α} {counts : List Nat} (h : x.Asks counts)
    (hc : ∀ n ∈ counts, 0 < n) : x.AsksSome := by
  induction h with
  | done a => trivial
  | ask _ ih => exact ⟨hc _ List.mem_cons_self, fun i => ih i fun n hn => hc n (.tail _ hn)⟩
  | tell _ ih => exact ih hc

theorem AsksSome.bind {x : Draw α} {f : α → Draw β} (hx : x.AsksSome)
    (hf : ∀ a, (f a).AsksSome) : (x >>= f).AsksSome := by
  show (x.bind f).AsksSome
  induction x with
  | done a => exact hf a
  | ask n next ih => exact ⟨hx.1, fun i => ih i (hx.2 i)⟩
  | tell r next ih => exact ih hx

theorem AsksSome.inRange {σ : Type} [Source σ] [LawfulSource σ] {x : Draw α} (h : x.AsksSome)
    (s : σ) : (x.run s).InRange := by
  induction x generalizing s with
  | done a => exact fun _ hp => nomatch hp
  | ask n next ih =>
    exact List.forall_mem_cons.2 ⟨LawfulSource.pick_lt s h.1, ih _ (h.2 _) _⟩
  | tell r next ih => exact ih h s

end

end Draw

end PromptWeave
