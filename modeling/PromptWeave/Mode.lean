import PromptWeave.Text.Blank

/-! The ways of merging a node's own tags with those of its inputs. -/

namespace PromptWeave

/-- How the inputs of a node enter its prompt. -/
inductive Mode where
  /-- One input, drawn at random, follows the node's own tags. -/
  | randomize
  /-- All inputs are interleaved with the node's own tags. -/
  | combine
  /-- The input that the switch points to follows the node's own tags. -/
  | switch
deriving DecidableEq, Inhabited

namespace Mode

/-- All modes, in the order in which messages list them. -/
def all : List Mode := [.randomize, .combine, .switch]

/-- The name of a mode. -/
def name : Mode → Text
  | .randomize => "Randomize".toList
  | .combine => "Combine".toList
  | .switch => "Switch".toList

/-- The mode of a name that may have blanks around it. -/
def ofText? (text : Text) : Option Mode :=
  all.find? fun mode => mode.name = Text.trim text

end Mode

end PromptWeave
