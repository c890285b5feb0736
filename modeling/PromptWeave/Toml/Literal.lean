import PromptWeave.Text.Basic

/-! The four kinds of strings in TOML: basic ones in double quotes, with escapes, and literal ones
in single quotes, without; both on one line, or on several between three quotes. -/

namespace PromptWeave

namespace Toml

/-- A character that may not stand in a string or a comment as it is. -/
def isControl (c : Char) : Bool :=
  (c.toNat < 0x20 && c != '\t') || c.toNat == 0x7F

/-- The characters that may stand between the tokens of a line. -/
def isSpace (c : Char) : Bool :=
  c == ' ' || c == '\t'

/-- A text without the space at its start. -/
def skipSpace (s : Text) : Text :=
  s.dropWhile isSpace

/-- The text after the end of a line, if a line ends here. -/
def newline? : Text → Option Text
  | '\n' :: s => some s
  | '\r' :: '\n' :: s => some s
  | _ => none

/-- The character of a number, if there is one. -/
def charOf? (n : Nat) : Option Char :=
  if n.isValidChar then some (Char.ofNat n) else none

/-- The character that the given number of hexadecimal digits at the start of a text write, and
the rest. -/
def readHex (count : Nat) (s : Text) : Option (Char × Text) := do
  let digits ← (s.take count).mapM (Text.digitIn? 16)
  if digits.length = count then
    return (← charOf? (Text.valueOf 16 digits), s.drop count)
  else none

/-- Reads an escape after its backslash. -/
def readEscape : Text → Option (Char × Text)
  | 'b' :: s => some ('\x08', s)
  | 't' :: s => some ('\t', s)
  | 'n' :: s => some ('\n', s)
  | 'f' :: s => some ('\x0c', s)
  | 'r' :: s => some ('\r', s)
  | 'e' :: s => some ('\x1b', s)
  | '"' :: s => some ('"', s)
  | '\\' :: s => some ('\\', s)
  | 'x' :: s => readHex 2 s
  | 'u' :: s => readHex 4 s
  | 'U' :: s => readHex 8 s
  | _ => none

/-- Puts characters in front of what was read. -/
def prepend (start : Text) (r : Option (Text × Text)) : Option (Text × Text) :=
  r.map fun (read, rest) => (start ++ read, rest)

/-- Reads the rest of a basic string after its opening quote. -/
def readBasic : (fuel : Nat) → Text → Option (Text × Text)
  | 0, _ => none
  | _, [] => none
  | fuel + 1, c :: s =>
    if c = '"' then some ([], s)
    else if c = '\\' then do
      let (d, s) ← readEscape s
      prepend [d] (readBasic fuel s)
    else if isControl c then none
    else prepend [c] (readBasic fuel s)

/-- Reads the rest of a literal string after its opening quote. -/
def readRaw : Text → Option (Text × Text)
  | [] => none
  | c :: s =>
    if c = '\'' then some ([], s)
    else if isControl c then none
    else prepend [c] (readRaw s)

/-- The text after the white space and the ends of lines at its start. -/
def skipLines (s : Text) : Text :=
  s.dropWhile fun c => isSpace c || c == '\n' || c == '\r'

/-- The white space and the ends of lines at the start of a text do not hold a carriage return on
its own. -/
def linesOk : Text → Bool
  | '\r' :: '\n' :: s => linesOk s
  | '\r' :: _ => false
  | c :: s => if isSpace c || c == '\n' then linesOk s else true
  | [] => true

/-- How many quotes at the start of a text belong to a string on several lines, if the string ends
there: its last three quotes may follow up to two others. -/
def closingQuotes? (quote : Char) (s : Text) : Option Nat :=
  let count := (s.takeWhile (· == quote)).length
  if 3 ≤ count then some (min count 5) else none

/-- Reads the rest of a string on several lines after its opening quotes; `escapes` tells whether
backslashes stand for escapes. A backslash at the end of a line joins it to the next text. -/
def readLines (quote : Char) (escapes : Bool) : (fuel : Nat) → Text → Option (Text × Text)
  | 0, _ => none
  | _, [] => none
  | fuel + 1, c :: s =>
    match closingQuotes? quote (c :: s) with
    | some count => some (List.replicate (count - 3) quote, (c :: s).drop count)
    | none =>
      if c = '\\' ∧ escapes then
        match newline? (skipSpace s) with
        | some rest => if linesOk rest then readLines quote escapes fuel (skipLines rest) else none
        | none => do
          let (d, s) ← readEscape s
          prepend [d] (readLines quote escapes fuel s)
      else
        match newline? (c :: s) with
        | some rest =>
          prepend (if c = '\r' then ['\r', '\n'] else ['\n']) (readLines quote escapes fuel rest)
        | none =>
          if isControl c then none else prepend [c] (readLines quote escapes fuel s)

/-- A text without the end of a line at its start. -/
def dropNewline (s : Text) : Text :=
  (newline? s).getD s

/-- Reads a string on one line. -/
def readLineString : Text → Option (Text × Text)
  | '"' :: s => readBasic (s.length + 1) s
  | '\'' :: s => readRaw s
  | _ => none

/-- Reads a string of any kind. An end of a line right after three opening quotes does not
count. -/
def readString : Text → Option (Text × Text)
  | '"' :: '"' :: '"' :: s => readLines '"' true (s.length + 1) (dropNewline s)
  | '\'' :: '\'' :: '\'' :: s => readLines '\'' false (s.length + 1) (dropNewline s)
  | s => readLineString s

end Toml

end PromptWeave
