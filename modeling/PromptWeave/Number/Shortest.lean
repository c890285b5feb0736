import PromptWeave.Number.Binary64
import PromptWeave.Number.Decimal

/-! The shortest decimal text of a floating-point number.

A decimal reads back as a number if it lies in the number's interval: nearer to it than to its
neighbours, the ends of the interval included where the significand is even. Of the decimals in
the interval the one with the fewest digits is written, and of those the nearest. -/

namespace PromptWeave

namespace Binary64

/-- The interval of a number in quarters of its unit: its lower end, the number itself, and its
upper end. Below the least significand of an exponent, numbers lie twice as close. -/
def interval (x : Binary64) : Nat × Nat × Nat :=
  let m := 4 * x.significand
  let below := if x.significand = 1 <<< (precision - 1) ∧ leastExponent < x.exponent then 1 else 2
  (m - below, m, m + 2)

/-- The multiple of ten to the `k` that is nearest to a number, of two that are equally near the
even one, if it lies in the interval of the number. The multiple just below and the one just above
the number are the only ones that can be nearest. -/
def nearestMultiple? (x : Binary64) (k : Int) : Option Nat :=
  let (low, middle, high) := x.interval
  let e := x.exponent - 2
  let scale (n : Nat) : Nat := (n <<< e.toNat) * Nat.pow 10 (-k).toNat
  let unit := (1 <<< (-e).toNat) * Nat.pow 10 k.toNat
  let even := x.significand % 2 = 0
  let inside (c : Nat) : Bool :=
    if even then scale low ≤ c * unit && c * unit ≤ scale high
    else scale low < c * unit && c * unit < scale high
  let c := scale middle / unit
  let nearest := roundDiv (scale middle) unit
  if inside nearest then some nearest
  else if inside c then some c
  else if inside (c + 1) then some (c + 1)
  else none

/-- The exponent below which no grid has to be tried. Each interval is longer than its step. -/
def leastStep : Int := -324

/-- Tries the grids of the steps from `leastStep + n` downwards, from coarse to fine. -/
def searchGrid (x : Binary64) : (n : Nat) → Decimal
  | 0 => ⟨(x.nearestMultiple? leastStep).getD 0, leastStep⟩
  | n + 1 =>
    match x.nearestMultiple? (leastStep + (n + 1)) with
    | some d => ⟨d, leastStep + (n + 1)⟩
    | none => searchGrid x n

/-- The shortest decimal that reads back as the number, sign apart. -/
def shortest (x : Binary64) : Decimal :=
  if x.isZero then ⟨0, 0⟩ else searchGrid x 633

/-- The text of a number: the shortest decimal that reads back as it. -/
def text (layout : Decimal.Layout) (x : Binary64) : Text :=
  (if x.negative then ['-'] else []) ++ layout.text x.shortest

end Binary64

end PromptWeave
