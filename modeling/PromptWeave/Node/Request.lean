import PromptWeave.Draw.Basic
import PromptWeave.Node.State

/-! Requests to evaluate a node, as a host sends them.

The settings and templates of a node are named fields of a request; all other fields are its
slots. The wires of connected inputs are the slots `input_1`, `input_2`, and so on. -/

namespace PromptWeave

/-- Why a request was not answered. -/
inductive NodeError where
  /-- The text is no request. -/
  | json (fault : Json.Fault)
  /-- There is no mode of this name. -/
  | unknownMode (name : Text)
  /-- There is no node of this type. -/
  | unknownNodeType (id : Text)
  /-- The slot of an input holds something else than a text. -/
  | inputNotText (slot : Nat) (value : Json)

/-- The key of the slot of an input. -/
def slotKey (slot : Nat) : Text :=
  "input_".toList ++ Text.ofNat slot

/-- The message for an error. -/
def NodeError.message : NodeError → Text
  | json fault => "JSON parsing error: ".toList ++ fault.message
  | unknownMode name => "Unknown combine mode: ".toList ++ name
  | unknownNodeType id => "Unknown node type: ".toList ++ id
  | inputNotText slot value =>
    "Invalid argument: ".toList ++ slotKey slot ++ " must be a string, got ".toList ++
      value.compact

/-- The mode of a name. -/
def Mode.parse (name : Text) : Except NodeError Mode :=
  match Mode.ofText? name with
  | some mode => .ok mode
  | none => .error (.unknownMode name)

/-- The named fields of a request. -/
structure Request.Fields where
  mode : Text := Mode.name .randomize
  text : Text := []
  negText : Text := []
  switchIndex : Int := 1
  locked : Bool := false
  cachedOutput : Text := []
  cachedNegative : Text := []
  disabled : Bool := false
deriving DecidableEq, Inhabited

/-- A request to evaluate a node. -/
structure Request extends Request.Fields where
  /-- The fields without a meaning of their own, sorted by their keys. -/
  slots : Json.Members := []

namespace Request

/-- The named fields are written like those of a record; those left out have their standard
values. -/
def record : Json.Record Fields where
  name := "NodeRequest".toList
  fields := [
    ⟨"mode".toList, .text⟩,
    ⟨"text".toList, .text⟩,
    ⟨"neg_text".toList, .text⟩,
    ⟨"switch_index".toList, .integer "i64".toList Json.leastSigned Json.greatestSigned⟩,
    ⟨"locked".toList, .flag⟩,
    ⟨"cached_output".toList, .text⟩,
    ⟨"cached_neg_output".toList, .text⟩,
    ⟨"disabled".toList, .flag⟩]
  ofRow := fun (mode, text, negText, index, locked, output, negative, disabled, ()) =>
    ⟨mode, text, negText, index, locked, output, negative, disabled⟩
  toRow r :=
    (r.mode, r.text, r.negText, r.switchIndex, r.locked, r.cachedOutput, r.cachedNegative,
      r.disabled, ())
  standard? := some {}
  unknown := .kept

/-- Reads a request, which has to be an object. -/
def read (depth : Nat) (s : Text) : Except Json.Fault (Request × Text) :=
  match Json.skipSpace s with
  | [] => .error (.unfinished .value)
  | c :: s =>
    if c = '{' then
      match depth with
      | 0 => .error .nestedTooDeep
      | depth + 1 => do
        let ((row, slots), s) ← Json.readFields record.fields .kept depth s
        return ({ toFields := ← record.complete row, slots }, s)
    else .error (Json.unwanted record.wanted c s)

/-- Requests are written as objects: the named fields, and then the slots. -/
def shape : Json.Shape Request where
  read := read
  write r := .object (Json.Row.members record.fields (record.toRow r.toFields) ++ r.slots)

/-- Reads a text that is a request and nothing else. -/
def parse (s : Text) : Except NodeError Request :=
  match shape.parse s with
  | .ok request => .ok request
  | .error fault => .error (.json fault)

/-- Connects an input. -/
def withInput (r : Request) (slot : Nat) (wire : Text) : Request :=
  { r with slots := r.slots.insert (slotKey slot) (.text wire) }

/-- Locks the node to an output. -/
def lockedWith (r : Request) (output negative : Text) : Request :=
  { r with locked := true, cachedOutput := output, cachedNegative := negative }

/-- Collects the inputs from the slot numbered `slot` on, up to the first slot that is missing. A
slot that holds nothing is passed over. Each slot that is looked at is another member of `slots`,
so that their number bounds the search. -/
def collectFrom (slots : Json.Members) :
    (fuel : Nat) → (slot : Nat) → Except NodeError (List Text)
  | 0, _ => .ok []
  | fuel + 1, slot =>
    match slots.get? (slotKey slot) with
    | none => .ok []
    | some .null => collectFrom slots fuel (slot + 1)
    | some (.text wire) => do
      let wires ← collectFrom slots fuel (slot + 1)
      return wire :: wires
    | some value => .error (.inputNotText slot value)

/-- Collects the wires of the inputs. -/
def collect (slots : Json.Members) : Except NodeError (List Text) :=
  collectFrom slots slots.length 1

/-- Collects the wires of the inputs and reports their number. -/
def gather (slots : Json.Members) : Draw (Except NodeError (List Text)) :=
  match collect slots with
  | .error e => pure (.error e)
  | .ok wires => do
    Draw.notice (.inputsCollected wires.length)
    return .ok wires

/-- The settings that a request describes for a mode. A switch index below 0 points to no input,
like 0. -/
def state (r : Request) (mode : Mode) : State :=
  ⟨mode, r.switchIndex.toNat, r.locked, r.cachedOutput, r.cachedNegative, r.disabled⟩

/-- The settings and inputs that a request describes. The name of the mode is looked at before the
slots. -/
def parts (r : Request) : Draw (Except NodeError (State × Inputs)) :=
  match Mode.parse r.mode with
  | .error e => pure (.error e)
  | .ok mode => do
    match ← gather r.slots with
    | .error e => return .error e
    | .ok wires => return .ok (r.state mode, ⟨r.text, r.negText, wires⟩)

end Request

end PromptWeave
