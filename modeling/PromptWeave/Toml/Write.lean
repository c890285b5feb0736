import PromptWeave.Toml.Literal

/-! Writing of entries.

A text is written in the plainest kind of string that holds it without escapes: a basic or a
literal string on one line, or one of them on several lines. Only where there is none, escapes
are used. -/

namespace PromptWeave

namespace Toml

/-- The kinds of strings. -/
inductive StringKind where
  | basic
  | literal
  | basicLines
  | literalLines
deriving DecidableEq

/-- The quotes at both ends of a string. -/
def StringKind.quotes : StringKind → Text
  | basic => ['"']
  | literal => ['\'']
  | basicLines => ['"', '"', '"']
  | literalLines => ['\'', '\'', '\'']

/-- The greatest number of times that a character stands in a row, where `run` of them stand in
front of the text. -/
def longestRun (c : Char) (run : Nat) : Text → Nat
  | [] => run
  | d :: s => if d = c then longestRun c (run + 1) s else max run (longestRun c 0 s)

/-- The text holds control characters other than ends of lines. -/
def hasControl (s : Text) : Bool :=
  s.any fun c => isControl c && c != '\n'

/-- The kind of string in which a text is written. -/
def kindFor (s : Text) : StringKind :=
  let doubles := longestRun '"' 0 s
  let singles := longestRun '\'' 0 s
  if !hasControl s ∧ '\\' ∉ s ∧ doubles = 0 ∧ '\n' ∉ s then .basic
  else if !hasControl s ∧ singles = 0 ∧ '\n' ∉ s then .literal
  else if !hasControl s ∧ '\\' ∉ s ∧ doubles ≤ 2 then .basicLines
  else if !hasControl s ∧ singles ≤ 2 then .literalLines
  else if '\n' ∈ s then .basicLines
  else .basic

/-- A digit of a hexadecimal number, in upper case. -/
def upperDigit (n : Nat) : Char :=
  (Nat.digitChar n).toUpper

/-- The escape of a character by its number. -/
def numericEscape (c : Char) : Text :=
  ['\\', 'u', '0', '0', upperDigit (c.toNat / 16), upperDigit (c.toNat % 16)]

/-- The escape of a character other than a quote, if it needs one. On several lines, ends of lines
stand for themselves. -/
def escape? (lines : Bool) (c : Char) : Option Text :=
  if c = '\x08' then some ['\\', 'b']
  else if c = '\t' then some ['\\', 't']
  else if c = '\n' then if lines then none else some ['\\', 'n']
  else if c = '\x0c' then some ['\\', 'f']
  else if c = '\r' then some ['\\', 'r']
  else if c = '\\' then some ['\\', '\\']
  else if isControl c then some (numericEscape c)
  else none

/-- A text with escapes. Up to `allowed` quotes in a row stand for themselves, and `run` of them
stand in front of the text. -/
def escaped (lines : Bool) (allowed run : Nat) : Text → Text
  | [] => []
  | c :: s =>
    if c = '"' then
      if run < allowed then c :: escaped lines allowed (run + 1) s
      else '\\' :: c :: escaped lines allowed 0 s
    else (escape? lines c).getD [c] ++ escaped lines allowed 0 s

/-- A text as a string. A text with several lines begins on a line of its own. -/
def writeString (s : Text) : Text :=
  let kind := kindFor s
  let body :=
    match kind with
    | .basic => escaped false 0 0 s
    | .basicLines => escaped true 2 0 s
    | _ => s
  let start :=
    if (kind = .basicLines ∨ kind = .literalLines) ∧ '\n' ∈ s then ['\n'] else []
  kind.quotes ++ start ++ body ++ kind.quotes

/-- A line with a key and a written value. -/
def writeEntry (key value : Text) : Text :=
  key ++ [' ', '=', ' '] ++ value ++ ['\n']

end Toml

end PromptWeave
