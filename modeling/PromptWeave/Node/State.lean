import PromptWeave.Node.Shape

/-! What goes into the evaluation of a chain node. -/

namespace PromptWeave

/-- The settings of a chain node. -/
structure State where
  mode : Mode := .randomize
  /-- The input that the mode `switch` takes, counted from 1. -/
  switchIndex : Nat := 1
  /-- The stored output is sent instead of a new one, unless it is empty. -/
  locked : Bool := false
  cachedOutput : Text := []
  cachedNegative : Text := []
  /-- Nothing is evaluated. -/
  disabled : Bool := false
deriving DecidableEq, Inhabited

namespace State

/-- The settings that lock a node to an output. -/
def lockedWith (state : State) (output negative : Text) : State :=
  { state with locked := true, cachedOutput := output, cachedNegative := negative }

/-- Settings are written as objects; those left out have their standard values. -/
def record : Json.Record State where
  name := "NodeState".toList
  fields := [
    ⟨"mode".toList, Mode.shape⟩,
    ⟨"switch_index".toList, .natural "usize".toList Json.greatestWord⟩,
    ⟨"locked".toList, .flag⟩,
    ⟨"cached_output".toList, .text⟩,
    ⟨"cached_neg_output".toList, .text⟩,
    ⟨"disabled".toList, .flag⟩]
  ofRow := fun (mode, index, locked, output, negative, disabled, ()) =>
    ⟨mode, index, locked, output, negative, disabled⟩
  toRow s :=
    (s.mode, s.switchIndex, s.locked, s.cachedOutput, s.cachedNegative, s.disabled, ())
  standard? := some {}

end State

/-- The texts that enter a chain node: its templates, and the wires of its inputs in order. -/
structure Inputs where
  text : Text := []
  negText : Text := []
  wires : List Text := []
deriving DecidableEq, Inhabited

/-- Inputs are written as objects; those left out are empty. -/
def Inputs.record : Json.Record Inputs where
  name := "ChainInputs".toList
  fields := [
    ⟨"text".toList, .text⟩,
    ⟨"neg_text".toList, .text⟩,
    ⟨"upstream".toList, Json.Shape.text.list⟩]
  ofRow := fun (text, negText, wires, ()) => ⟨text, negText, wires⟩
  toRow i := (i.text, i.negText, i.wires, ())
  standard? := some {}

end PromptWeave
