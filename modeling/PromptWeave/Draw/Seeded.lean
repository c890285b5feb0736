import PromptWeave.Draw.Basic
import PromptWeave.Draw.KeyStream

/-! Choices from a seed.

Double words are taken from the key stream of the seed. A double word times the count, read as a
fixed-point number, has the index before the point. The fractions behind the point are not all
equally frequent, so a double word whose fraction lies above the acceptance bound is passed
over. -/

namespace PromptWeave

/-- A key stream and the number of double words taken from it. -/
structure Seeded where
  key : KeyStream.Key
  position : Nat := 0

namespace Seeded

/-- The stream of a seed, at its start. -/
def ofSeed (seed : UInt64) : Seeded :=
  { key := KeyStream.keyOfSeed seed }

/-- The next double word. -/
def next (s : Seeded) : UInt64 × Seeded :=
  (KeyStream.doubleWord s.key s.position, { s with position := s.position + 1 })

/-- The greatest fraction that is accepted in a choice among `count` possibilities: the greatest
multiple of `count` by a power of two that fits into a double word, less one. -/
def acceptance (count : Nat) : Nat :=
  (count <<< (63 - count.log2)) - 1

/-- Takes double words, `attempts` of them at most, until one is accepted. More than half of all
double words are, so that the bound is never felt. -/
def search (count : Nat) : (attempts : Nat) → Seeded → Nat × Seeded
  | 0, s => (0, s)
  | attempts + 1, s =>
    let (w, s) := s.next
    let product := w.toNat * count
    if product % UInt64.size ≤ acceptance count then (product / UInt64.size, s)
    else search count attempts s

/-- Answers one choice. Nothing is taken from the stream where there are no possibilities. -/
def pick (s : Seeded) (count : Nat) : Nat × Seeded :=
  if count = 0 then (0, s) else search count 1024 s

instance : Source Seeded := ⟨pick⟩

end Seeded

end PromptWeave
