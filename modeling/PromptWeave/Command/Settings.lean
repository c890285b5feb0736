import PromptWeave.Command.Arguments
import PromptWeave.Toml.Read
import PromptWeave.Toml.Write

/-! The settings of the command, which a configuration file keeps. -/

namespace PromptWeave

namespace Command

/-- The settings. -/
structure Settings where
  /-- The seed of all choices; another one each time if there is none. -/
  seed : Option Nat := none
  nodeType : Text := "prompt_chain".toList
  /-- Responses are written with an item on each line. -/
  pretty : Bool := false
deriving DecidableEq, Inhabited

namespace Settings

/-- The settings that are changed by arguments. -/
def withArguments (s : Settings) (a : Arguments) : Settings where
  seed := a.seed <|> s.seed
  nodeType := a.nodeType.getD s.nodeType
  pretty := s.pretty || a.pretty

/-- The settings of a document. Those left out have their standard values, and other keys do not
matter; there are none where a value is not of the right kind. -/
def ofEntries? (entries : Toml.Entries) : Option Settings := do
  let standard : Settings := {}
  let seed ← match entries.get? "seed".toList with
    | none => some none
    | some (.integer n) => if 0 ≤ n ∧ n < UInt64.size then some (some n.toNat) else none
    | some _ => none
  let nodeType ← match entries.get? "node_type".toList with
    | none => some standard.nodeType
    | some (.text t) => some t
    | some _ => none
  let pretty ← match entries.get? "pretty".toList with
    | none => some standard.pretty
    | some (.flag b) => some b
    | some _ => none
  return { seed, nodeType, pretty }

/-- The settings in the text of a configuration file, if it is one. -/
def parse? (text : Text) : Option Settings :=
  (Toml.parse text).bind ofEntries?

/-- The settings in the text of a configuration file, or the standard ones. -/
def ofText (text : Text) : Settings :=
  (parse? text).getD {}

/-- The text of a configuration file. -/
def text (s : Settings) : Text :=
  (s.seed.map fun n => Toml.writeEntry "seed".toList (Text.ofNat n)).getD [] ++
    Toml.writeEntry "node_type".toList (Toml.writeString s.nodeType) ++
    Toml.writeEntry "pretty".toList (if s.pretty then "true".toList else "false".toList)

end Settings

end Command

end PromptWeave
