import PromptWeave.Text.Printable

/-! Texts as log lines and messages show them: in double quotes, on one line, with everything
that a reader could not see written as an escape. -/

namespace PromptWeave

namespace Text

/-- A number in hexadecimal digits, in lower case. -/
def hex (n : Nat) : Text :=
  Nat.toDigits 16 n

/-- A character as it stands in a quoted text. -/
def quotedChar (c : Char) : Text :=
  if c = '\x00' then "\\0".toList
  else if c = '\t' then "\\t".toList
  else if c = '\n' then "\\n".toList
  else if c = '\r' then "\\r".toList
  else if c = '"' ∨ c = '\\' then ['\\', c]
  else if isPrintable c then [c]
  else "\\u\x7b".toList ++ hex c.toNat ++ ['\x7d']

/-- A text in double quotes. -/
def quoted (s : Text) : Text :=
  '"' :: s.flatMap quotedChar ++ ['"']

example : quoted "a'\t\"\u001e".toList = "\"a'\\t\\\"\\u\x7b1e\x7d\"".toList := by
  decide +kernel

end Text

end PromptWeave
