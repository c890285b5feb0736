import PromptWeave.Json.Literal
import PromptWeave.Json.Number
import PromptWeave.Json.Token

/-! Passing over values that nobody asked for.

The text is checked to be JSON, however deep its values are nested: the brackets that are open at
a place are a list. -/

namespace PromptWeave

namespace Json

/-- An open bracket. -/
inductive Bracket where
  | list
  | object
deriving DecidableEq

/-- The character that closes a bracket. -/
def Bracket.closing : Bracket → Char
  | list => ']'
  | object => '}'

/-- Why a text may not end inside a bracket. -/
def Bracket.unfinished : Bracket → Fault
  | list => .unfinished .list
  | object => .unfinished .object

/-- Why a text is refused that goes on inside a bracket after a value, but with neither a comma
nor the end of the bracket. -/
def Bracket.expectedComma : Bracket → Fault
  | list => .expectedCommaOrBracket
  | object => .expectedCommaOrBrace

/-- Passes over what stands before a value inside a bracket: in an object, the key and a colon. -/
def skipKey (bracket : Bracket) (s : Text) : Except Fault Text :=
  match bracket with
  | .list => .ok s
  | .object =>
    match skipSpace s with
    | [] => .error (.unfinished .object)
    | c :: s =>
      if c = '"' then do
        let s ← skipLiteral s
        match skipSpace s with
        | [] => throw (.unfinished .object)
        | c :: s => if c = ':' then return s else throw .expectedColon
      else .error .keyMustBeString

/-- Passes over a value that is neither a list nor an object. -/
def skipScalar (c : Char) (s : Text) : Except Fault Text :=
  if c = 'n' then word "ull".toList s
  else if c = 't' then word "rue".toList s
  else if c = 'f' then word "alse".toList s
  else if c = '"' then skipLiteral s
  else if c = '-' ∨ c.isDigit then skipNumber (c :: s)
  else .error .expectedValue

/-- Where a reader stands between two tokens. -/
inductive Place where
  /-- A value has to follow. -/
  | value
  /-- A bracket was opened. -/
  | opened
  /-- A value has ended. -/
  | ended

/-- Passes over the rest of a value, with the brackets that are open. Each step but those that
follow an opened bracket takes a character, so that twice the length of the text is enough. -/
def skipRest : (fuel : Nat) → Place → List Bracket → Text → Except Fault Text
  | 0, _, _, _ => .error (.unfinished .value)
  | fuel + 1, .value, brackets, s =>
    match skipSpace s with
    | [] => .error (.unfinished .value)
    | c :: s =>
      if c = '[' then skipRest fuel .opened (.list :: brackets) s
      else if c = '{' then skipRest fuel .opened (.object :: brackets) s
      else do skipRest fuel .ended brackets (← skipScalar c s)
  | _ + 1, _, [], s => .ok s
  | fuel + 1, place, bracket :: brackets, s =>
    match skipSpace s with
    | [] => .error bracket.unfinished
    | c :: s =>
      if c = bracket.closing then skipRest fuel .ended brackets s
      else
        match place with
        | .ended =>
          if c = ',' then do
            skipRest fuel .value (bracket :: brackets) (← skipKey bracket s)
          else .error bracket.expectedComma
        | _ => do skipRest fuel .value (bracket :: brackets) (← skipKey bracket (c :: s))

/-- Passes over a value. -/
def skipValue (s : Text) : Except Fault Text :=
  skipRest (2 * s.length + 1) .value [] s

end Json

end PromptWeave
