import PromptWeave.Draw.Basic

/-! Choices that are written down beforehand.

A script lists indices and starts over when it comes to its end. An index too great for a choice
counts as the last possibility; an empty script always takes the first one. -/

namespace PromptWeave

/-- A list of indices to answer choices with, and the number of choices already answered. -/
structure Script where
  indices : List Nat := []
  /-- The number of choices answered from the list. -/
  position : Nat := 0
  /-- The number of choices answered. -/
  draws : Nat := 0
deriving DecidableEq, Inhabited

namespace Script

/-- The script that repeats the given indices. -/
def ofList (indices : List Nat) : Script :=
  { indices }

/-- The script that always gives the same index. -/
def always (index : Nat) : Script :=
  ofList [index]

/-- The index that is next in the list. -/
def wanted (s : Script) : Nat :=
  s.indices.getD (s.position % s.indices.length) 0

/-- Answers one choice. -/
def pick (s : Script) (count : Nat) : Nat × Script :=
  (min s.wanted (count - 1),
    { s with
      position := if s.indices = [] then s.position else s.position + 1
      draws := s.draws + 1 })

/-- The index is one of the possibilities, if there are any. -/
theorem pick_lt (s : Script) {count : Nat} (h : 0 < count) : (s.pick count).1 < count := by
  simp only [pick]
  omega

instance : Source Script := ⟨pick⟩

end Script

end PromptWeave
