import PromptWeave.Template.Slot

/-! Templates.

A template is written in one of two ways. As a list, it has parts between commas, wherever its
lines end; a part with bars is a choice among the texts between them. As a multiline group, it is
a single choice among the texts of all lines: nearly every line then ends in a bar. -/

namespace PromptWeave

namespace Template

/-- The lines of a template, trimmed, without the blank ones. -/
def lines (template : Text) : List Text :=
  Text.trimmedPieces '\n' template

/-- The lines form a multiline group: some line ends in a bar, and at most one does not. -/
def isMultilineGroup (lines : List Text) : Bool :=
  let barred := lines.countP (Text.endsIn '|')
  0 < barred && lines.length ≤ barred + 1

/-- A line of a multiline group without the bars and commas at its end. -/
def groupLine (line : Text) : Text :=
  Text.trim (Text.dropEndWhile (fun c => c == '|' || c == ',') line)

/-- The options of a multiline group. -/
def groupOptions (lines : List Text) : List Text :=
  Slot.optionsOf ([' ', '|', ' '].intercalate (lines.map groupLine))

/-- The parts of a template that is a list. Lines are joined by single spaces. -/
def parts (lines : List Text) : List Text :=
  Text.trimmedPieces ',' ([' '].intercalate lines)

/-- The places of a template with the given lines. -/
def slots (lines : List Text) : List Slot :=
  if isMultilineGroup lines then [.options (groupOptions lines)]
  else (parts lines).map Slot.ofPart

/-- Resolves a template: fills its places. A blank template has none, and nothing is reported
of it. -/
def resolve (template : Text) : Draw Text :=
  if Text.trim template = [] then pure []
  else do
    let text ← Slot.assemble (slots (lines template))
    Draw.notice (.templateResolved template text)
    return text

example : slots (lines "a | b, c\nd".toList) =
    [.options ["a".toList, "b".toList], .fixed "c d".toList] := by decide
example : slots (lines "red hair,|\nblue | green|\nblack".toList) =
    [.options ["red hair".toList, "blue".toList, "green".toList, "black".toList]] := by decide

end Template

end PromptWeave
