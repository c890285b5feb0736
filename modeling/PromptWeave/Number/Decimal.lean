import PromptWeave.Text.Basic

/-! Decimals and their texts. -/

namespace PromptWeave

/-- A decimal: `digits` times ten to the `exponent`. -/
structure Decimal where
  digits : Nat
  exponent : Int
deriving DecidableEq

namespace Decimal

/-- How a decimal is laid out: the exponents of the first digit for which the point is written at
its place. -/
structure Layout where
  leastPlain : Int
  greatestPlain : Int

/-- The text of a decimal. At its place, the point has a digit on both sides; otherwise it follows
the first digit if there are more, and the exponent is written with its sign. -/
def Layout.text (layout : Layout) (d : Decimal) : Text :=
  let digits := Text.ofNat d.digits
  let first : Int := d.exponent + (digits.length - 1)
  if layout.leastPlain ≤ first ∧ first ≤ layout.greatestPlain then
    if 0 ≤ d.exponent then
      digits ++ List.replicate d.exponent.toNat '0' ++ ['.', '0']
    else if 0 ≤ first then
      digits.take (first.toNat + 1) ++ '.' :: digits.drop (first.toNat + 1)
    else
      ['0', '.'] ++ List.replicate (-first - 1).toNat '0' ++ digits
  else
    let fraction := digits.drop 1
    digits.take 1 ++ (if fraction = [] then [] else '.' :: fraction) ++
      ['e', if 0 ≤ first then '+' else '-'] ++ Text.ofNat first.natAbs

example : Layout.text ⟨-5, 15⟩ ⟨15, -1⟩ = "1.5".toList := by decide
example : Layout.text ⟨-5, 15⟩ ⟨1, -5⟩ = "0.00001".toList := by decide
example : Layout.text ⟨-5, 15⟩ ⟨12, 15⟩ = "1.2e+16".toList := by decide

end Decimal

end PromptWeave
