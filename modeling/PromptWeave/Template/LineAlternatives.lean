import PromptWeave.Template.Basic

/-! Templates whose lines are alternatives.

Lines follow each other as alternatives until one of them ends in a comma. Bars inside a line
separate alternatives too. -/

namespace PromptWeave

namespace Template

/-- A line with a bar added, unless it ends in a comma or in a bar. -/
def markLine (line : Text) : Text :=
  if Text.endsIn ',' line || Text.endsIn '|' line then line else line ++ [' ', '|']

/-- A bar that follows a bar and a space occurs in the text. -/
def hasBarPair : Text → Bool
  | ' ' :: '|' :: ' ' :: '|' :: _ => true
  | _ :: s => hasBarPair s
  | [] => false

/-- Replaces each two bars in a row by one, from left to right and in a single pass. -/
def mergeBarPairs : Text → Text
  | ' ' :: '|' :: ' ' :: '|' :: s => ' ' :: '|' :: mergeBarPairs s
  | c :: s => c :: mergeBarPairs s
  | [] => []

theorem length_mergeBarPairs_le (s : Text) : (mergeBarPairs s).length ≤ s.length := by
  fun_induction mergeBarPairs s <;> simp <;> omega

theorem length_mergeBarPairs_lt {s : Text} (h : hasBarPair s) :
    (mergeBarPairs s).length < s.length := by
  fun_induction hasBarPair s with
  | case1 s =>
    have := length_mergeBarPairs_le s
    simp [mergeBarPairs]
    omega
  | case2 c s hne ih =>
    rw [mergeBarPairs]
    · simpa using ih h
    · exact hne
  | case3 => simp at h

/-- Merges bars until no two of them stand in a row. -/
def mergeBars (s : Text) : Text :=
  if hasBarPair s then mergeBars (mergeBarPairs s) else s
termination_by s.length
decreasing_by exact length_mergeBarPairs_lt ‹_›

theorem hasBarPair_mergeBars (s : Text) : hasBarPair (mergeBars s) = false := by
  fun_induction mergeBars s with
  | case1 s h ih => exact ih
  | case2 s h => simpa using h

/-- The text of a template with all its bars. -/
def barred (lines : List Text) : Text :=
  mergeBars ([' '].intercalate (lines.map markLine))

/-- A part without the bars at its end. -/
def stripBars (part : Text) : Text :=
  Text.trim (Text.dropEndWhile (· == '|') part)

/-- The places of a template with the given lines. -/
def lineSlots (lines : List Text) : List Slot :=
  (((Text.trimmedPieces ',' (barred lines)).map stripBars).filter (· ≠ [])).map Slot.ofPart

/-- Resolves a template whose lines are alternatives. -/
def resolveLines (template : Text) : Draw Text :=
  if Text.trim template = [] then pure []
  else Slot.assemble (lineSlots (lines template))

example : lineSlots (lines "red\nblue,\nsmile|\nfrown".toList) =
    [.options ["red".toList, "blue".toList], .options ["smile".toList, "frown".toList]] := by
  decide +kernel

end Template

end PromptWeave
