import PromptWeave.Draw.Basic
import PromptWeave.Tags.Interleave

/-! Merging of a node's own tags with those of its inputs. -/

namespace PromptWeave

namespace Tags

/-- The tags of a node followed by those of the input that a switch points to. Inputs are counted
from 1; a switch that points to none of them adds nothing. -/
def switchTo (own : Tags) (inputs : List Tags) : (index : Nat) → Tags
  | 0 => own
  | i + 1 => own ++ inputs.getD i empty

/-- The tags of a node followed by those of an input drawn at random. Nothing is drawn where there
are no inputs. -/
def appendDrawn (own : Tags) (inputs : List Tags) : Draw Tags :=
  if inputs = [] then pure own
  else do
    let i ← Draw.pick inputs.length
    return own ++ inputs.getD i empty

/-- The tags of a node merged with those of its inputs. -/
def combine (mode : Mode) (own : Tags) (inputs : List Tags) (switchIndex : Nat) : Draw Tags :=
  match mode with
  | .switch => pure (switchTo own inputs switchIndex)
  | .randomize => appendDrawn own inputs
  | .combine => pure (interleave ((own :: inputs).filter (!·.isEmpty)))

end Tags

end PromptWeave
