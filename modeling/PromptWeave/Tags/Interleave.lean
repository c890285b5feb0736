import PromptWeave.Tags.Basic

/-! Round-robin merging: the first tags of all sequences in order, then the second tags of those
that have one, and so on. -/

namespace PromptWeave

namespace Tags

/-- The tags that stand at position `i` of the sequences, in the order of the sequences. -/
def column (sequences : List Tags) (i : Nat) : List Text :=
  sequences.filterMap (·.get? i)

/-- The greatest number of tags in one of the sequences. -/
def longest (sequences : List Tags) : Nat :=
  (sequences.map size).foldr max 0

/-- The tags of all sequences, position by position. -/
def interleave (sequences : List Tags) : Tags :=
  ⟨(List.range (longest sequences)).flatMap (column sequences)⟩

example : interleave [parse "a, b".toList, parse "c, d, e".toList, parse "f".toList] =
    parse "a, c, f, b, d, e".toList := by decide

end Tags

end PromptWeave
