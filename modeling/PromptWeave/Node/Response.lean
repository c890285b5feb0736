import PromptWeave.Node.Output

/-! Responses, as a host receives them. -/

namespace PromptWeave

/-- What a host receives for a request. -/
structure Response where
  /-- The text that other nodes receive. -/
  output : Text := []
  positive : Text := []
  negative : Text := []
  /-- The text that a person sees. -/
  display : Text := []
deriving DecidableEq, Inhabited

namespace Response

/-- The response that carries an output. -/
def ofOutput (o : Output) : Response :=
  ⟨o.wire, o.positive, o.negative, o.display⟩

/-- Responses are written as objects. -/
def record : Json.Record Response where
  name := "NodeResponse".toList
  fields := [
    ⟨"output".toList, .text⟩,
    ⟨"positive".toList, .text⟩,
    ⟨"negative".toList, .text⟩,
    ⟨"display".toList, .text⟩]
  ofRow := fun (output, positive, negative, display, ()) =>
    ⟨output, positive, negative, display⟩
  toRow r := (r.output, r.positive, r.negative, r.display, ())

/-- A response as JSON. -/
def toJson (r : Response) : Json :=
  record.shape.write r

end Response

end PromptWeave
