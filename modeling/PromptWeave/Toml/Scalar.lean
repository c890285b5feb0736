import PromptWeave.Number.Binary64
import PromptWeave.Toml.Basic
import PromptWeave.Toml.Literal

/-! Numbers, truth values, dates and times in TOML. -/

namespace PromptWeave

namespace Toml

/-! ## Numbers -/

/-- The digits of a number, which may have single underscores between them. -/
def digits? (base : Nat) (s : Text) : Option (List Nat) :=
  let groups := Text.pieces '_' s
  if groups.any List.isEmpty then none else groups.flatten.mapM (Text.digitIn? base)

/-- The digits of a decimal number without leading zeros. -/
def decimalDigits? (s : Text) : Option (List Nat) :=
  if s.head? = some '0' ∧ s ≠ ['0'] then none else digits? 10 s

/-- A number without its sign, and whether the sign is a minus. -/
def splitSign : Text → Bool × Text
  | '-' :: s => (true, s)
  | '+' :: s => (false, s)
  | s => (false, s)

/-- The size of an integer in decimal digits, or in those of another base after its mark. -/
def magnitude? (signed : Bool) (s : Text) : Option Nat :=
  match s with
  | '0' :: 'x' :: s => if signed then none else (digits? 16 s).map (Text.valueOf 16)
  | '0' :: 'o' :: s => if signed then none else (digits? 8 s).map (Text.valueOf 8)
  | '0' :: 'b' :: s => if signed then none else (digits? 2 s).map (Text.valueOf 2)
  | s => (decimalDigits? s).map (Text.valueOf 10)

/-- An integer that fits into 128 bits, with or without sign. -/
def integer? (s : Text) : Option Int := do
  let (negative, unsigned) := splitSign s
  let n ← magnitude? (unsigned ≠ s) unsigned
  if negative then
    if n ≤ 1 <<< 127 then return -n else none
  else if n < 1 <<< 128 then return n else none

/-- The size of a number with a fraction or an exponent, by its digits and the exponent of the last
one, is not too great to be a floating-point number. -/
def fitsFloat (digits : List Nat) (exponent : Int) : Bool :=
  let significant := digits.dropWhile (· == 0)
  let first : Int := exponent + significant.length
  significant.isEmpty || first < 300 ||
    (first < 400 &&
      (Binary64.ofQuotient (Text.valueOf 10 significant * Nat.pow 10 exponent.toNat)
        (Nat.pow 10 (-exponent).toNat)).isSome)

/-- The value of an exponent after its mark. -/
def exponent? (s : Text) : Option Int := do
  let (negative, unsigned) := splitSign s
  let n : Int := Text.valueOf 10 (← digits? 10 unsigned)
  return if negative then -n else n

/-- The parts of a text before and after the mark of an exponent. -/
def splitExponent (s : Text) : Text × Option Text :=
  let isMark (c : Char) : Bool := c == 'e' || c == 'E'
  (s.takeWhile (!isMark ·), (s.dropWhile (!isMark ·)).tail?)

/-- The text is a number with a fraction or an exponent, or one of the words for infinity and for
what is not a number. -/
def isFloat (s : Text) : Bool :=
  let unsigned := (splitSign s).2
  if unsigned = "inf".toList ∨ unsigned = "nan".toList then true
  else
    let (mantissa, exponent) := splitExponent unsigned
    let parts? : Option (List Nat × List Nat) :=
      match Text.cut? ['.'] mantissa with
      | some (whole, fraction) => do return (← decimalDigits? whole, ← digits? 10 fraction)
      | none => if exponent.isNone then none else (decimalDigits? mantissa).map (·, [])
    match parts?, exponent.mapM exponent? with
    | some (whole, fraction), some power =>
      fitsFloat (whole ++ fraction) (power.getD 0 - fraction.length)
    | _, _ => false

/-! ## Dates and times -/

/-- The number that exactly `count` decimal digits at the start of a text write, and the rest. -/
def readCount (count : Nat) (s : Text) : Option (Nat × Text) := do
  let digits ← (s.take count).mapM (Text.digitIn? 10)
  if digits.length = count then return (Text.valueOf 10 digits, s.drop count) else none

/-- The rest of a text that starts with the given character. -/
def expect (c : Char) : Text → Option Text
  | d :: s => if c = d then some s else none
  | [] => none

/-- The number of days in a month. -/
def daysIn (year month : Nat) : Nat :=
  if month = 2 then
    if year % 4 = 0 ∧ (year % 100 ≠ 0 ∨ year % 400 = 0) then 29 else 28
  else if month ∈ [4, 6, 9, 11] then 30
  else 31

/-- The rest of a text that starts with a date. -/
def skipDate (s : Text) : Option Text := do
  let (year, s) ← readCount 4 s
  let (month, s) ← readCount 2 (← expect '-' s)
  let (day, s) ← readCount 2 (← expect '-' s)
  if 1 ≤ month ∧ month ≤ 12 ∧ 1 ≤ day ∧ day ≤ daysIn year month then return s
  else none

/-- The rest of a text without the fraction of a second at its start. -/
def skipFraction (s : Text) : Option Text :=
  match s with
  | ['.'] => none
  | '.' :: c :: s => if c.isDigit then some (s.dropWhile Char.isDigit) else none
  | s => some s

/-- The rest of a text that starts with a time. The seconds may be missing. -/
def skipTime (s : Text) : Option Text := do
  let (hour, s) ← readCount 2 s
  let (minute, s) ← readCount 2 (← expect ':' s)
  if 23 < hour ∨ 59 < minute then none
  else
    match s with
    | ':' :: s => do
      let (second, s) ← readCount 2 s
      if second ≤ 60 then skipFraction s else none
    | s => return s

/-- The rest of a text without the offset from universal time at its start. -/
def skipOffset (s : Text) : Option Text :=
  match s with
  | 'Z' :: s => some s
  | 'z' :: s => some s
  | c :: rest =>
    if c = '+' ∨ c = '-' then do
      let (hour, s) ← readCount 2 rest
      let (minute, s) ← readCount 2 (← expect ':' s)
      if hour ≤ 23 ∧ minute ≤ 59 then return s else none
    else some s
  | [] => some []

/-- The text is a date, a time, or both. -/
def isMoment (s : Text) : Bool :=
  match skipDate s with
  | some [] => true
  | some (c :: time) =>
    (c == 'T' || c == 't' || c == ' ') && (skipTime time).bind skipOffset == some []
  | none => skipTime s == some []

/-! ## Reading -/

/-- A character of a value without quotes and brackets. -/
def isScalarChar (c : Char) : Bool :=
  c.isAlphanum || c == '_' || c == '+' || c == '-' || c == '.' || c == ':'

/-- The value of a text without quotes and brackets. -/
def scalar? (s : Text) : Option Toml :=
  if s = "true".toList then some (.flag true)
  else if s = "false".toList then some (.flag false)
  else
    match integer? s with
    | some n => some (.integer n)
    | none =>
      if isFloat s then some (.float s) else if isMoment s then some (.moment s) else none

/-- Reads a value without quotes and brackets. A date may be followed by a space and a time. -/
def readScalar (s : Text) : Option (Toml × Text) :=
  let first := s.takeWhile isScalarChar
  let rest := s.dropWhile isScalarChar
  match skipDate first, rest with
  | some [], ' ' :: c :: rest' =>
    if c.isDigit then do
      let time := (c :: rest').takeWhile isScalarChar
      return (← scalar? (first ++ ' ' :: time), (c :: rest').dropWhile isScalarChar)
    else (scalar? first).map (·, rest)
  | _, _ => (scalar? first).map (·, rest)

end Toml

end PromptWeave
