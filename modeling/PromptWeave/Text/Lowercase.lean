import PromptWeave.Text.Case

/-! Lower-casing of texts.

Each character is replaced by its lower-case form. Two rules go beyond the table of single forms:
a dotted capital I becomes two characters, and a capital sigma takes the final form at the end of
a word. -/

namespace PromptWeave

namespace Text

/-- The lower-case form of a character, where it does not depend on its surroundings. -/
def lowerChar (c : Char) : Text :=
  if c = '\u0130' then ['i', '\u0307']
  else
    match caseRuns.find? (·.holds c.toNat) with
    | some r => [Char.ofNat (c.toNat + r.offset).toNat]
    | none => [c]

/-- The first character that is not passed over is a letter of some case. -/
def meetsCased (s : Text) : Bool :=
  match s.dropWhile isCaseIgnorable with
  | [] => false
  | c :: _ => isCased c

/-- The lower-case form of a capital sigma between two texts, the one before it given backwards:
the final form where a letter comes before it and none after it. -/
def lowerSigma (before after : Text) : Char :=
  if meetsCased before && !meetsCased after then 'ς' else 'σ'

/-- Lower-cases a text that follows `before`, given backwards. -/
def lowercaseAfter (before : Text) : Text → Text
  | [] => []
  | c :: s =>
    (if c = 'Σ' then [lowerSigma before s] else lowerChar c) ++ lowercaseAfter (c :: before) s

/-- The lower-case form of a text. -/
def lowercase (s : Text) : Text :=
  lowercaseAfter [] s

example : lowercase "ΟΔΟΣ Σ ΣΑΣ".toList = "οδος σ σας".toList := by decide +kernel
example : lowercase "ÉȺẞ\u0130x".toList = "éⱥßi\u0307x".toList := by decide +kernel

end Text

end PromptWeave
