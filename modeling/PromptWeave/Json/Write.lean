import PromptWeave.Json.Literal

/-! Writing of values.

The two layouts differ in the white space between tokens only. -/

namespace PromptWeave

namespace Json

/-- The white space of a written value. -/
structure Layout where
  /-- What stands before an item or a closing bracket with `depth` brackets around it. -/
  newline : (depth : Nat) → Text
  /-- What stands between a colon and a value. -/
  gap : Text

/-- The layout without white space. -/
def Layout.compact : Layout := ⟨fun _ => [], []⟩

/-- The layout with each item on a line of its own, indented by two spaces for each bracket. -/
def Layout.pretty : Layout := ⟨fun depth => '\n' :: List.replicate (2 * depth) ' ', [' ']⟩

mutual

/-- A value as it is written inside `depth` brackets. -/
def write (layout : Layout) (depth : Nat) : Json → Text
  | .null => "null".toList
  | .flag true => "true".toList
  | .flag false => "false".toList
  | .number n => n.text
  | .text t => literal t
  | .array [] => ['[', ']']
  | .array (item :: items) =>
    '[' :: layout.newline (depth + 1) ++ write layout (depth + 1) item ++
      writeItems layout (depth + 1) items ++ layout.newline depth ++ [']']
  | .object [] => ['\x7b', '\x7d']
  | .object ((key, value) :: members) =>
    '\x7b' :: layout.newline (depth + 1) ++ literal key ++ ':' :: layout.gap ++
      write layout (depth + 1) value ++ writeMembers layout (depth + 1) members ++
      layout.newline depth ++ ['\x7d']

/-- The items of a list after the first one. -/
def writeItems (layout : Layout) (depth : Nat) : List Json → Text
  | [] => []
  | item :: items =>
    ',' :: layout.newline depth ++ write layout depth item ++ writeItems layout depth items

/-- The members of an object after the first one. -/
def writeMembers (layout : Layout) (depth : Nat) : List (Text × Json) → Text
  | [] => []
  | (key, value) :: members =>
    ',' :: layout.newline depth ++ literal key ++ ':' :: layout.gap ++
      write layout depth value ++ writeMembers layout depth members

end

/-- A value written without white space. -/
def compact (value : Json) : Text :=
  write .compact 0 value

/-- A value written with an item on each line. -/
def pretty (value : Json) : Text :=
  write .pretty 0 value

end Json

end PromptWeave
