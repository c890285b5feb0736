import PromptWeave.Json.Fault

/-! The space between tokens, and the words of JSON. -/

namespace PromptWeave

namespace Json

/-- The characters that may stand between the tokens of JSON. -/
def isSpace (c : Char) : Bool :=
  c == ' ' || c == '\t' || c == '\n' || c == '\r'

/-- A text without the space at its start. -/
def skipSpace (s : Text) : Text :=
  s.dropWhile isSpace

/-- The rest of a text that has to go on with the given letters. -/
def word : (letters : Text) → Text → Except Fault Text
  | [], s => .ok s
  | _ :: _, [] => .error (.unfinished .value)
  | c :: letters, d :: s => if c = d then word letters s else .error .expectedWord

end Json

end PromptWeave
