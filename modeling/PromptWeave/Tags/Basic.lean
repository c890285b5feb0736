import PromptWeave.Text.Blank

/-! Tag sequences.

A prompt is a sequence of tags, written with commas between them. Text enters a sequence only
through `Tags.push`, `Tags.ofList` and `Tags.parse`, which trim each tag and drop the blank ones.
A tag that is pushed may hold commas; a tag that is parsed holds none. -/

namespace PromptWeave

/-- The tags of a prompt, in order. -/
structure Tags where
  toList : List Text
deriving DecidableEq, Inhabited

namespace Tags

/-- The sequence without tags. -/
def empty : Tags := ⟨[]⟩

/-- The sequence of the given tags, trimmed, without the blank ones. -/
def ofList (tags : List Text) : Tags :=
  ⟨(tags.map Text.trim).filter (· ≠ [])⟩

/-- The tags of a text, which stand between commas. -/
def parse (text : Text) : Tags :=
  ⟨Text.trimmedPieces ',' text⟩

/-- Adds a tag at the end, trimmed, unless it is blank. -/
def push (tags : Tags) (tag : Text) : Tags :=
  if Text.trim tag = [] then tags else ⟨tags.toList ++ [Text.trim tag]⟩

/-- The tags of one sequence and then those of another. -/
def append (tags more : Tags) : Tags :=
  ⟨tags.toList ++ more.toList⟩

instance : Append Tags := ⟨append⟩

/-- The number of tags. -/
def size (tags : Tags) : Nat :=
  tags.toList.length

/-- The sequence has no tags. -/
def isEmpty (tags : Tags) : Bool :=
  tags.toList.isEmpty

/-- The tag at a position, counted from 0. -/
def get? (tags : Tags) (i : Nat) : Option Text :=
  tags.toList[i]?

/-- What stands between two tags in a written sequence. -/
def separator : Text := [',', ' ']

/-- A sequence written as text. -/
def join (tags : Tags) : Text :=
  separator.intercalate tags.toList

@[simp] theorem toList_append (a b : Tags) : (a ++ b).toList = a.toList ++ b.toList := rfl

@[simp] theorem toList_empty : empty.toList = [] := rfl

theorem append_assoc (a b c : Tags) : a ++ b ++ c = a ++ (b ++ c) :=
  congrArg Tags.mk (List.append_assoc ..)

theorem append_empty (a : Tags) : a ++ empty = a :=
  congrArg Tags.mk (List.append_nil _)

example : parse " red ,, blue ,  , [BREAK]".toList =
    ⟨["red".toList, "blue".toList, "[BREAK]".toList]⟩ := by decide

end Tags

end PromptWeave
