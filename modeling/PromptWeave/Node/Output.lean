import PromptWeave.Json.Record
import PromptWeave.Wire

/-! What comes out of the evaluation of a chain node. -/

namespace PromptWeave

/-- The result of an evaluation. -/
structure Output where
  /-- The text that other nodes receive. -/
  wire : Text := []
  positive : Text := []
  negative : Text := []
  /-- The text that a person sees. -/
  display : Text := []
deriving DecidableEq, Inhabited

namespace Output

/-- The output that sends a bundle. -/
def ofBundle (b : Bundle) : Output where
  wire := Wire.encode b
  positive := b.positive
  negative := b.negative
  display := b.display

/-- The output of a disabled node. -/
def disabled : Output where
  display := "(disabled)".toList

/-- The text of one channel. -/
def channel (output : Output) : Channel → Text
  | .positive => output.positive
  | .negative => output.negative

/-- Outputs are written as objects. -/
def record : Json.Record Output where
  name := "NodeOutput".toList
  fields := [
    ⟨"bundle".toList, .text⟩,
    ⟨"positive".toList, .text⟩,
    ⟨"negative".toList, .text⟩,
    ⟨"display".toList, .text⟩]
  ofRow := fun (wire, positive, negative, display, ()) => ⟨wire, positive, negative, display⟩
  toRow o := (o.wire, o.positive, o.negative, o.display, ())

end Output

end PromptWeave
