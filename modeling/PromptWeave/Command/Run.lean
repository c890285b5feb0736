import PromptWeave.Command.Directory
import PromptWeave.Command.Settings
import PromptWeave.Draw.Seeded
import PromptWeave.Node.Builtin

/-! The command: evaluates the node of one request and prints the response. -/

namespace PromptWeave

namespace Command

/-- The configuration file. -/
structure ConfigFile where
  /-- The text of the file, if it can be read. -/
  content : Option Text := none
  /-- The file can be written. -/
  writable : Bool := true

/-- What a run of the command depends on. -/
structure Surroundings where
  arguments : List Text
  /-- The text on the standard input. -/
  input : Except ReadFault Text
  /-- The text of the file at a path. -/
  file : Text → Except ReadFault Text
  config : ConfigFile := {}
  /-- The seed that is used where none is set. -/
  freshSeed : Nat := 0

/-- Why a run fails. -/
inductive Failure where
  | fileNotRead (path : Text) (fault : ReadFault)
  | inputNotRead (fault : ReadFault)
  | notRequest (fault : Json.Fault)
  | notEvaluated (nodeType : Text) (error : NodeError)

namespace Failure

/-- What failed. -/
def message : Failure → Text
  | fileNotRead path _ => "failed to read ".toList ++ path
  | inputNotRead _ => "failed to read request from stdin".toList
  | notRequest _ => "invalid node request".toList
  | notEvaluated nodeType _ => "failed to evaluate '".toList ++ nodeType ++ "' node".toList

/-- Why it failed, the nearest cause first. -/
def causes : Failure → List Text
  | fileNotRead _ fault => [fault.message]
  | inputNotRead fault => [fault.message]
  | notRequest fault => [(NodeError.json fault).message, fault.message]
  | notEvaluated _ error => [error.message]

/-- A cause with its start in front, and with the lines after the first one indented. -/
def indented (start indent cause : Text) : Text :=
  start ++ ('\n' :: indent).intercalate (Text.pieces '\n' cause)

/-- A cause that has its place in a list of causes. -/
def numbered (n : Nat) (cause : Text) : Text :=
  indented ("    ".toList ++ Text.ofNat n ++ ": ".toList) "       ".toList cause

/-- The causes as they are reported, with numbers if there are several. -/
def reportedCauses : List Text → List Text
  | [cause] => [indented "    ".toList "    ".toList cause]
  | causes => causes.zipIdx.map fun (cause, n) => numbered n cause

/-- The report of a failure. -/
def report (f : Failure) : Text :=
  ['\n'].intercalate
    (["Error: ".toList ++ f.message, [], "Caused by:".toList] ++ reportedCauses f.causes)

end Failure

/-- How a run ends. -/
inductive Ending where
  | done
  | misused (error : UsageError)
  | failed (failure : Failure)

/-- The exit status of an ending. -/
def Ending.status : Ending → Nat
  | done => 0
  | misused error => error.status
  | failed _ => 1

/-- The result of a run. -/
structure Result where
  ending : Ending
  /-- What is printed. -/
  output : Text := []
  /-- What is written into the configuration file. -/
  saved : Option Text := none

/-- The lines that list the node types. -/
def listing (r : Registry) : Text :=
  r.evaluators.flatMap fun e => e.typeId ++ '\t' :: e.displayName ++ ['\n']

/-- What is printed where help is asked for. -/
def help : Text :=
  ['\n'].intercalate [
    "Evaluate a PromptChain node from a JSON request".toList,
    [],
    "Usage: prompt-chain [OPTIONS] [REQUEST]".toList,
    [],
    "Arguments:".toList,
    "  [REQUEST]  Request JSON file; stdin when omitted".toList,
    [],
    "Options:".toList,
    ("      --node <TYPE>  Node type (prompt_chain, prompt_chain_simple, " ++
      "prompt_chain_preview)").toList,
    "      --seed <SEED>  Fixed random seed".toList,
    "      --pretty       Pretty-print the JSON response".toList,
    "      --list         List node types and exit".toList,
    "      --save-config  Write the effective settings to the config file".toList,
    "  -h, --help         Print help".toList,
    []]

/-- The settings that hold for a run. -/
def settings (s : Surroundings) (a : Arguments) : Settings :=
  ((s.config.content.map Settings.ofText).getD {}).withArguments a

/-- The text of the request. -/
def requestText (s : Surroundings) (a : Arguments) : Except Failure Text :=
  match a.requestPath with
  | some path => (s.file path).mapError (.fileNotRead path)
  | none => s.input.mapError .inputNotRead

/-- The request. -/
def request (s : Surroundings) (a : Arguments) : Except Failure Request := do
  let text ← requestText s a
  (Request.shape.parse text).mapError .notRequest

/-- The response to a request. All choices come from one seed. -/
def respond (settings : Settings) (freshSeed : Nat) (r : Request) : Except Failure Response :=
  let source := Seeded.ofSeed (UInt64.ofNat (settings.seed.getD freshSeed))
  ((Registry.builtin.evaluate settings.nodeType r).run source).value.mapError
    (.notEvaluated settings.nodeType)

/-- The line that is printed for a response. -/
def rendered (settings : Settings) (r : Response) : Text :=
  (if settings.pretty then r.toJson.pretty else r.toJson.compact) ++ ['\n']

/-- Runs the command. Settings are saved before the request is looked at. -/
def run (s : Surroundings) : Result :=
  match Arguments.parse s.arguments with
  | .error .displayHelp => { ending := .misused .displayHelp, output := help }
  | .error e => { ending := .misused e }
  | .ok a =>
    if a.list then { ending := .done, output := listing .builtin }
    else
      let settings := settings s a
      let saved := if a.saveConfig ∧ s.config.writable then some settings.text else none
      match (request s a).bind (respond settings s.freshSeed) with
      | .ok r => { ending := .done, output := rendered settings r, saved }
      | .error f => { ending := .failed f, saved }

end Command

end PromptWeave
