/-! Binary floating-point numbers of 64 bits, in exact arithmetic.

A finite number is a whole significand below 2 ^ 53 times a power of two that is at least
2 ^ (-1074). Products and quotients are rounded to the nearest such number, and of two that are
equally near the one with the even significand is taken. -/

namespace PromptWeave

/-- A finite floating-point number of 64 bits. -/
structure Binary64 where
  negative : Bool
  significand : Nat
  exponent : Int
deriving DecidableEq, Inhabited

namespace Binary64

/-- The exponent of the least numbers. -/
def leastExponent : Int := -1074

/-- The exponent of the greatest numbers. -/
def greatestExponent : Int := 971

/-- The number of bits in the significand of all but the least numbers. -/
def precision : Nat := 53

/-- The quotient rounded to the nearest whole number, a half to the even one. -/
def roundDiv (n d : Nat) : Nat :=
  let q := n / d
  let r := n % d
  if d < 2 * r ∨ (2 * r = d ∧ q % 2 = 1) then q + 1 else q

/-- The quotient is at least the power of two. -/
def powerLE (n d : Nat) (e : Int) : Bool :=
  d <<< e.toNat ≤ n <<< (-e).toNat

/-- The exponent of the greatest power of two that is at most the quotient. -/
def floorLog (n d : Nat) : Int :=
  let e : Int := n.log2 - d.log2
  if powerLE n d e then e else e - 1

/-- Zero. -/
def zero : Binary64 :=
  ⟨false, 0, leastExponent⟩

/-- The number nearest to a quotient; none where it is too great. -/
def ofQuotient (n d : Nat) : Option Binary64 :=
  if n = 0 then some zero
  else
    let e := max leastExponent (floorLog n d - (precision - 1))
    let m := roundDiv (n <<< (-e).toNat) (d <<< e.toNat)
    let (m, e) := if m = 1 <<< precision then (m / 2, e + 1) else (m, e)
    if greatestExponent < e then none else some ⟨false, m, e⟩

/-- The number nearest to a natural number; none where it is too great. -/
def ofNat (n : Nat) : Option Binary64 :=
  ofQuotient n 1

/-- The number with the other sign. -/
def neg (x : Binary64) : Binary64 :=
  { x with negative := !x.negative }

/-- The number is zero, of either sign. -/
def isZero (x : Binary64) : Bool :=
  x.significand == 0

/-- The numerator of the size of a number, written as a fraction. -/
def numerator (x : Binary64) : Nat :=
  x.significand <<< x.exponent.toNat

/-- The denominator of the size of a number, written as a fraction. -/
def denominator (x : Binary64) : Nat :=
  1 <<< (-x.exponent).toNat

/-- The product of the sizes of two numbers, rounded; none where it is too great. -/
def mul (x y : Binary64) : Option Binary64 :=
  ofQuotient (x.numerator * y.numerator) (x.denominator * y.denominator)

/-- The quotient of the sizes of two numbers, rounded; none where it is too great. -/
def div (x y : Binary64) : Option Binary64 :=
  ofQuotient (x.numerator * y.denominator) (x.denominator * y.numerator)

/-- The number nearest to a power of ten. -/
def powerOfTen (k : Nat) : Option Binary64 :=
  ofNat (Nat.pow 10 k)

example : ofNat (2 ^ 53 + 1) = some ⟨false, 2 ^ 52, 1⟩ := by decide +kernel
example : powerOfTen 309 = none := by decide +kernel
example : ofQuotient 5 (10 ^ 324) = some ⟨false, 1, -1074⟩ := by decide +kernel

end Binary64

end PromptWeave
