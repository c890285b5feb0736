import PromptWeave.Node.Request
import PromptWeave.Node.Response

/-! Node types, by their ids. -/

namespace PromptWeave

/-- A type of node: its id, its name for people, and what it does with requests. -/
structure Evaluator where
  typeId : Text
  displayName : Text
  evaluate : Request → Draw (Except NodeError Response)

/-- The known types of nodes, sorted by their ids. -/
structure Registry where
  evaluators : List Evaluator := []

namespace Registry

/-- The registry that knows no types. -/
def empty : Registry := {}

/-- Puts an evaluator among evaluators sorted by their ids. One with the same id is replaced. -/
def insert (e : Evaluator) : List Evaluator → List Evaluator
  | [] => [e]
  | other :: rest =>
    if other.typeId = e.typeId then e :: rest
    else if Text.before e.typeId other.typeId then e :: other :: rest
    else other :: insert e rest

/-- Makes a type known. -/
def register (r : Registry) (e : Evaluator) : Registry :=
  ⟨insert e r.evaluators⟩

/-- The evaluator of a type. -/
def get? (r : Registry) (id : Text) : Option Evaluator :=
  r.evaluators.find? fun e => e.typeId = id

/-- The ids of the known types, sorted. -/
def typeIds (r : Registry) : List Text :=
  r.evaluators.map Evaluator.typeId

/-- Evaluates a node of a type. -/
def evaluate (r : Registry) (id : Text) (request : Request) : Draw (Except NodeError Response) :=
  match r.get? id with
  | some e => e.evaluate request
  | none => do
    Draw.notice (.unknownNodeType id)
    return .error (.unknownNodeType id)

end Registry

end PromptWeave
