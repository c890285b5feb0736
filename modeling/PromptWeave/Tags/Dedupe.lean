import PromptWeave.Tags.Basic
import PromptWeave.Text.Lowercase

/-! Removal of repeated tags.

Of the tags that differ only in letter case, the first stays. Directives, tags in square brackets
such as `[BREAK]`, say something about their place in the prompt; all of them stay. -/

namespace PromptWeave

namespace Tags

/-- The tag is a directive: it stands in square brackets. -/
def isDirective (tag : Text) : Bool :=
  (Text.trim tag).head? == some '[' && Text.endsIn ']' (Text.trim tag)

/-- What two repetitions of a tag have in common. -/
def key (tag : Text) : Text :=
  Text.lowercase tag

/-- The tags that stay after tags with the keys `seen`. -/
def dedupeAfter (seen : List Text) : List Text → List Text
  | [] => []
  | tag :: tags =>
    if isDirective tag then tag :: dedupeAfter seen tags
    else if key tag ∈ seen then dedupeAfter seen tags
    else tag :: dedupeAfter (key tag :: seen) tags

/-- The sequence with only the first of the tags that share a key, and all directives. -/
def dedupe (tags : Tags) : Tags :=
  ⟨dedupeAfter [] tags.toList⟩

example : dedupe (parse "[BREAK], a, [BREAK], A, b".toList) =
    parse "[BREAK], a, [BREAK], b".toList := by decide +kernel

end Tags

end PromptWeave
