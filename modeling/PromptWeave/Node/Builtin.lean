import PromptWeave.Node.Chain
import PromptWeave.Node.Registry
import PromptWeave.Template.LineAlternatives

/-! The node types that are always known. -/

namespace PromptWeave

namespace Evaluator

/-- The chain node, with all settings. -/
def chain (observer : Observer) : Evaluator where
  typeId := "prompt_chain".toList
  displayName := "PromptChain".toList
  evaluate request := do
    match ← request.parts with
    | .error e => return .error e
    | .ok (state, inputs) =>
      let output ← Chain.evaluate observer state inputs
      return .ok (.ofOutput output)

/-- The node that resolves a template whose lines are alternatives, and has no inputs. -/
def simple : Evaluator where
  typeId := "prompt_chain_simple".toList
  displayName := "PromptChain Simple".toList
  evaluate request := do
    let text ← Template.resolveLines request.text
    return .ok ⟨text, text, [], text⟩

/-- The wire of the first input, or the empty text. -/
def firstWire (slots : Json.Members) : Text :=
  match slots.get? (slotKey 1) with
  | some (.text wire) => wire
  | _ => []

/-- The node that shows what another node sends, and sends it on. -/
def preview : Evaluator where
  typeId := "prompt_chain_preview".toList
  displayName := "PromptChain Preview".toList
  evaluate request :=
    let wire := firstWire request.slots
    let b := (Wire.decode wire).bundle
    return .ok ⟨wire, b.positive, b.negative, b.display⟩

end Evaluator

/-- The registry of the chain node, the simple node and the preview node. -/
def Registry.builtin : Registry :=
  ((Registry.empty.register (.chain .log)).register .simple).register .preview

end PromptWeave
