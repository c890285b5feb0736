import PromptWeave.Text.Basic

/-! White space and trimming.

A character is blank if it has the Unicode property `White_Space`. Zero-width characters and the
byte order mark do not have it. -/

namespace PromptWeave

namespace Text

/-- The characters with the property `White_Space`. -/
def isBlank (c : Char) : Bool :=
  let n := c.toNat
  (0x9 ≤ n && n ≤ 0xD) || n == 0x20 || n == 0x85 || n == 0xA0 || n == 0x1680 ||
    (0x2000 ≤ n && n ≤ 0x200A) || n == 0x2028 || n == 0x2029 || n == 0x202F || n == 0x205F ||
    n == 0x3000

/-- A text without the blank characters at its start. -/
def trimStart (s : Text) : Text :=
  s.dropWhile isBlank

/-- A text without the blank characters at its end. -/
def trimEnd (s : Text) : Text :=
  dropEndWhile isBlank s

/-- A text without the blank characters at its ends. -/
def trim (s : Text) : Text :=
  trimEnd (trimStart s)

/-- The pieces of a text at a mark, trimmed, without those that are blank. -/
def trimmedPieces (mark : Char) (s : Text) : List Text :=
  ((pieces mark s).map trim).filter (· ≠ [])

example : trim "\u00a0 a b\u3000\n".toList = "a b".toList := by decide
example : trim "\u200ba\ufeff".toList = "\u200ba\ufeff".toList := by decide

end Text

end PromptWeave
