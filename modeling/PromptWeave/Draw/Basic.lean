import PromptWeave.Report

/-! Computations that ask for choices.

A computation of type `Draw α` ends in a value; on its way it may ask for an index below a count,
and it may leave reports. It does not know where the indices come from. `Draw.run` answers the
questions of a computation from a source and keeps the answers and the reports in order. -/

namespace PromptWeave

/-- A computation that ends in an `α`, may ask for choices and may leave reports. -/
inductive Draw (α : Type) where
  /-- The end. -/
  | done (value : α)
  /-- Asks for an index below `count` and goes on with the answer. -/
  | ask (count : Nat) (next : Nat → Draw α)
  /-- Leaves a report and goes on. -/
  | tell (report : Report) (next : Draw α)

/-- A source of choices: for each count it gives an index, which should be below the count, and
the source for the next choice. -/
class Source (σ : Type) where
  /-- The index for a count, and the source for the next choice. -/
  pick : σ → Nat → Nat × σ

/-- A choice that was made: the index taken among `count` possibilities. -/
structure Pick where
  count : Nat
  index : Nat
deriving DecidableEq

namespace Draw

/-- Runs `f` on the value of a computation. -/
def bind : Draw α → (α → Draw β) → Draw β
  | done a, f => f a
  | ask n next, f => ask n fun i => (next i).bind f
  | tell r next, f => tell r (next.bind f)

instance : Monad Draw where
  pure := done
  bind := bind

/-- Asks for an index below `count`. -/
def pick (count : Nat) : Draw Nat :=
  ask count done

/-- Leaves a report. -/
def report (r : Report) : Draw Unit :=
  tell r (done ())

/-- Leaves reports, one after the other. -/
def reportAll (reports : List Report) : Draw Unit :=
  reports.foldr tell (done ())

/-- Leaves a line for the log. -/
def notice (n : Notice) : Draw Unit :=
  report (.notice n)

theorem bind_done (x : Draw α) : x.bind done = x := by
  induction x with
  | done a => rfl
  | ask n next ih => exact congrArg (ask n) (funext ih)
  | tell r next ih => exact congrArg (tell r) ih

theorem bind_assoc (x : Draw α) (f : α → Draw β) (g : β → Draw γ) :
    (x.bind f).bind g = x.bind fun a => (f a).bind g := by
  induction x with
  | done a => rfl
  | ask n next ih => exact congrArg (ask n) (funext ih)
  | tell r next ih => exact congrArg (tell r) ih

instance : LawfulMonad Draw :=
  LawfulMonad.mk' Draw bind_done (fun _ _ => rfl) bind_assoc

/-! ## Running -/

/-- The result of a run: the value, the source as it is afterwards, and the choices and the
reports in the order in which they were made. -/
structure Outcome (σ α : Type) where
  value : α
  source : σ
  picks : List Pick
  reports : List Report

/-- Runs a computation with the choices of a source. -/
def run [Source σ] : Draw α → σ → Outcome σ α
  | done a, s => ⟨a, s, [], []⟩
  | ask n next, s =>
    let (i, s) := Source.pick s n
    let o := (next i).run s
    { o with picks := ⟨n, i⟩ :: o.picks }
  | tell r next, s =>
    let o := next.run s
    { o with reports := r :: o.reports }

namespace Outcome

/-- The events among the reports of a run. -/
def events (o : Outcome σ α) : List Event :=
  o.reports.filterMap fun
    | .event e => some e
    | .notice _ => none

/-- The lines for the log among the reports of a run. -/
def notices (o : Outcome σ α) : List Notice :=
  o.reports.filterMap fun
    | .event _ => none
    | .notice n => some n

end Outcome

section
variable {σ : Type} [Source σ]

@[simp] theorem run_pure (a : α) (s : σ) : (pure a : Draw α).run s = ⟨a, s, [], []⟩ := rfl

@[simp] theorem run_reportAll (reports : List Report) (s : σ) :
    (reportAll reports).run s = ⟨(), s, [], reports⟩ := by
  induction reports with
  | nil => rfl
  | cons r reports ih =>
    show (tell r (reportAll reports)).run s = _
    rw [run, ih]

@[simp] theorem run_pick (n : Nat) (s : σ) :
    (pick n).run s =
      ⟨(Source.pick s n).1, (Source.pick s n).2, [⟨n, (Source.pick s n).1⟩], []⟩ :=
  rfl

/-- A computation followed by another runs one after the other, on the same source. -/
theorem run_bind (x : Draw α) (f : α → Draw β) (s : σ) :
    (x >>= f).run s =
      ⟨((f (x.run s).value).run (x.run s).source).value,
        ((f (x.run s).value).run (x.run s).source).source,
        (x.run s).picks ++ ((f (x.run s).value).run (x.run s).source).picks,
        (x.run s).reports ++ ((f (x.run s).value).run (x.run s).source).reports⟩ := by
  show (x.bind f).run s = _
  induction x generalizing s with
  | done a => rfl
  | ask n next ih => simp [bind, run, ih]
  | tell r next ih => simp [bind, run, ih]

end

end Draw

end PromptWeave
