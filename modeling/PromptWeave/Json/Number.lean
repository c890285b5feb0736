import PromptWeave.Json.Fault

/-! Number literals.

A literal without point and exponent is an integer if it fits into 64 bits. All other literals are
floating-point numbers: the digits that fit into 64 bits, as the nearest number, times or divided
by a power of ten. Minus zero is a floating-point number. -/

namespace PromptWeave

namespace Json

/-- The parts of a number literal. -/
structure NumberLiteral where
  negative : Bool
  whole : List Nat
  fraction : List Nat
  exponent : Int
  /-- The literal has neither point nor exponent. -/
  integral : Bool

/-- The digits at the start of a text, and the rest. -/
def takeDigits (s : Text) : List Nat × Text :=
  ((s.takeWhile Char.isDigit).filterMap Text.digit?, s.dropWhile Char.isDigit)

/-- Why a text is refused where a digit has to stand and none does. -/
def noDigit (s : Text) : Fault :=
  if s = [] then .unfinished .value else .invalidNumber

/-- Reads one or more digits. -/
def readDigits (s : Text) : Except Fault (List Nat × Text) :=
  let (digits, rest) := takeDigits s
  if digits = [] then .error (noDigit s) else .ok (digits, rest)

/-- Reads the digits before the point. A zero at their start has to be the only one. -/
def readWhole (s : Text) : Except Fault (List Nat × Text) :=
  match readDigits s with
  | .ok (0 :: _ :: _, _) => .error .invalidNumber
  | r => r

/-- Reads the point and the digits behind it, if there is a point. -/
def readFraction (s : Text) : Except Fault (List Nat × Text) :=
  match s with
  | '.' :: s => readDigits s
  | _ => .ok ([], s)

/-- Reads the digits of an exponent, after its mark and its sign. -/
def readPower (negative : Bool) (s : Text) : Except Fault (Option Int × Text) := do
  let (digits, rest) ← readDigits s
  let n : Int := Text.valueOf 10 digits
  return (some (if negative then -n else n), rest)

/-- Reads an exponent, if there is one. -/
def readExponent (s : Text) : Except Fault (Option Int × Text) :=
  match s with
  | c :: s' =>
    if c = 'e' ∨ c = 'E' then
      match s' with
      | '-' :: s => readPower true s
      | '+' :: s => readPower false s
      | s => readPower false s
    else .ok (none, s)
  | [] => .ok (none, s)

/-- Reads the parts of a number literal after its sign. -/
def readUnsigned (negative : Bool) (s : Text) : Except Fault (NumberLiteral × Text) := do
  let (whole, s) ← readWhole s
  let (fraction, s) ← readFraction s
  let (exponent, s) ← readExponent s
  return (⟨negative, whole, fraction, exponent.getD 0, fraction = [] ∧ exponent = none⟩, s)

/-- Reads the parts of a number literal. -/
def readNumberLiteral : Text → Except Fault (NumberLiteral × Text)
  | '-' :: s => readUnsigned true s
  | s => readUnsigned false s

/-- The greatest number that fits into 64 bits. -/
def greatestWord : Nat := UInt64.size - 1

/-- The least number that fits into 64 bits with a sign. -/
def leastSigned : Int := -0x8000000000000000

/-- The greatest number that fits into 64 bits with a sign. -/
def greatestSigned : Int := 0x7FFFFFFFFFFFFFFF

/-- Appends digits to a number as long as it fits into 64 bits, and gives those left over. -/
def absorb : Nat → List Nat → Nat × List Nat
  | n, [] => (n, [])
  | n, d :: digits =>
    if n * 10 + d ≤ greatestWord then absorb (n * 10 + d) digits else (n, d :: digits)

/-- The greatest power of ten that is a floating-point number. -/
def greatestPower : Nat := 308

/-- A number divided by ten to the `k`. The division goes in steps where the power is too
great. -/
def divideByPower (x : Binary64) (k : Nat) : Option Binary64 :=
  if k ≤ greatestPower then do
    x.div (← Binary64.powerOfTen k)
  else if x.isZero then some x
  else do
    divideByPower (← x.div (← Binary64.powerOfTen greatestPower)) (k - greatestPower)
termination_by k
decreasing_by simp [greatestPower] at *; omega

/-- A number times ten to the `k`; none where it is too great. -/
def timesPower (x : Binary64) (k : Nat) : Option Binary64 :=
  if k ≤ greatestPower then do
    x.mul (← Binary64.powerOfTen k)
  else if x.isZero then some x
  else none

/-- A number scaled by a power of ten; none where it is too great. -/
def scale (n : Nat) (exponent : Int) : Option Binary64 := do
  let x ← Binary64.ofNat n
  match exponent with
  | .ofNat k => timesPower x k
  | .negSucc k => divideByPower x (k + 1)

/-- The floating-point number of a literal; none where it is too great. -/
def NumberLiteral.float? (l : NumberLiteral) : Option Binary64 := do
  let (n, dropped) := absorb 0 l.whole
  let (n, dropped') := absorb n l.fraction
  let places : Int := l.fraction.length - dropped'.length
  let x ← scale n (dropped.length - places + l.exponent)
  return if l.negative then x.neg else x

/-- The integer of a literal, if it is one and fits into 64 bits. -/
def NumberLiteral.integer? (l : NumberLiteral) : Option Int :=
  let n := Text.valueOf 10 l.whole
  if !l.integral then none
  else if l.negative then
    if 0 < n ∧ leastSigned ≤ -n then some (-n) else none
  else if n ≤ greatestWord then some n else none

/-- The number of a literal; none where it is too great. -/
def NumberLiteral.number? (l : NumberLiteral) : Option Number :=
  match l.integer? with
  | some n => some (.integer n)
  | none => l.float?.map .float

/-- Reads a number. -/
def readNumber (s : Text) : Except Fault (Number × Text) := do
  let (l, s) ← readNumberLiteral s
  match l.number? with
  | some n => return (n, s)
  | none => throw .numberOutOfRange

/-- Passes over a number that nobody asked for. Its size does not matter, and an end of the text
inside it is no different from another character. -/
def skipNumber (s : Text) : Except Fault Text :=
  match readNumberLiteral s with
  | .ok (_, s) => .ok s
  | .error _ => .error .invalidNumber

end Json

end PromptWeave
