import PromptWeave.Text.Basic

/-! The arguments of the command.

Options and flags begin with two dashes; the value of an option follows as the next word or after
an equals sign. One other word may stand among them, the path of the request. A value is looked
at only when the next argument is recognised, so that an unknown argument is reported in place of
a bad value in front of it. -/

namespace PromptWeave

namespace Command

/-- What the arguments ask for. -/
structure Arguments where
  requestPath : Option Text := none
  nodeType : Option Text := none
  seed : Option Nat := none
  pretty : Bool := false
  list : Bool := false
  saveConfig : Bool := false
deriving DecidableEq, Inhabited

/-- Why arguments are not used. -/
inductive UsageError where
  /-- No such option, or one path too many. -/
  | unknownArgument
  /-- An option without a value, or an empty path. -/
  | invalidValue
  /-- A seed that is no number of 64 bits. -/
  | valueValidation
  /-- An option or a flag that was given before. -/
  | argumentConflict
  /-- A flag with a value. -/
  | tooManyValues
  /-- Help is asked for. -/
  | displayHelp
deriving DecidableEq

/-- The exit status for an error. -/
def UsageError.status : UsageError → Nat
  | displayHelp => 0
  | _ => 2

/-- An argument with a value. -/
inductive Valued where
  | seed
  | node
  | path
deriving DecidableEq

/-- An argument without a value. -/
inductive Flag where
  | pretty
  | list
  | saveConfig
  | help
deriving DecidableEq

/-- The option of a name. -/
def option? (name : Text) : Option Valued :=
  if name = "seed".toList then some .seed
  else if name = "node".toList then some .node
  else none

/-- The flag of a name. -/
def flag? (name : Text) : Option Flag :=
  if name = "pretty".toList then some .pretty
  else if name = "list".toList then some .list
  else if name = "save-config".toList then some .saveConfig
  else if name = "help".toList then some .help
  else none

/-- A seed: decimal digits, with a plus sign in front or without, for a number of 64 bits. -/
def seed? (s : Text) : Option Nat := do
  let digits ← (if s.head? = some '+' then s.drop 1 else s).mapM (Text.digitIn? 10)
  let n := Text.valueOf 10 digits
  if digits ≠ [] ∧ n < UInt64.size then return n else none

namespace Arguments

/-- Takes the value of an argument. -/
def take (a : Arguments) (which : Valued) (value : Text) : Except UsageError Arguments :=
  match which with
  | .seed =>
    if a.seed.isSome then .error .argumentConflict
    else
      match seed? value with
      | some n => .ok { a with seed := some n }
      | none => .error .valueValidation
  | .node =>
    if a.nodeType.isSome then .error .argumentConflict
    else .ok { a with nodeType := some value }
  | .path => if value = [] then .error .invalidValue else .ok { a with requestPath := some value }

/-- Takes a flag. -/
def raise (a : Arguments) : Flag → Except UsageError Arguments
  | .pretty => if a.pretty then .error .argumentConflict else .ok { a with pretty := true }
  | .list => if a.list then .error .argumentConflict else .ok { a with list := true }
  | .saveConfig =>
    if a.saveConfig then .error .argumentConflict else .ok { a with saveConfig := true }
  | .help => .error .displayHelp

end Arguments

/-- The arguments taken so far, and the one that still waits: for its value, or, with a value, to
be taken. -/
structure Progress where
  taken : Arguments := {}
  waiting : Option (Valued × Option Text) := none
  /-- A path was given. -/
  hasPath : Bool := false
  /-- All further words are paths. -/
  onlyPaths : Bool := false

namespace Progress

/-- Takes the argument that waits. -/
def settle (p : Progress) : Except UsageError Arguments :=
  match p.waiting with
  | none => .ok p.taken
  | some (which, some value) => p.taken.take which value
  | some (_, none) => .error .invalidValue

/-- A word that is neither an option nor a flag nor the value of an option. -/
def path (p : Progress) (word : Text) : Except UsageError Progress :=
  if p.hasPath then .error .unknownArgument
  else do
    let taken ← p.settle
    return { p with taken, waiting := some (.path, some word), hasPath := true }

/-- A word that may be the value of the option in front of it. -/
def plain (p : Progress) (word : Text) : Except UsageError Progress :=
  match p.waiting with
  | some (which, none) => .ok { p with waiting := some (which, some word) }
  | _ => p.path word

/-- A word that begins with two dashes: its name, and its value after an equals sign. -/
def long (p : Progress) (name : Text) (value? : Option Text) : Except UsageError Progress :=
  match option? name, flag? name, value? with
  | some which, _, some value => do
    let taken ← (← p.settle).take which value
    return { p with taken, waiting := none }
  | some which, _, none => do
    let taken ← p.settle
    return { p with taken, waiting := some (which, none) }
  | none, some flag, none => do
    let taken ← (← p.settle).raise flag
    return { p with taken, waiting := none }
  | none, some _, some _ => .error .tooManyValues
  | none, none, _ => .error .unknownArgument

/-- A word that begins with one dash: its letters. Only the letter for help is known. -/
def short (p : Progress) (letters : Text) : Except UsageError Progress :=
  if letters.head? = some 'h' then do
    let _ ← p.settle
    throw .displayHelp
  else .error .unknownArgument

/-- Takes the next word. -/
def next (p : Progress) (word : Text) : Except UsageError Progress :=
  if p.onlyPaths then p.path word
  else
    match word with
    | ['-', '-'] => .ok { p with onlyPaths := true }
    | '-' :: '-' :: rest =>
      match Text.cut? ['='] rest with
      | some (name, value) => p.long name (some value)
      | none => p.long rest none
    | '-' :: c :: letters => p.short (c :: letters)
    | word => p.plain word

end Progress

/-- Reads the words of a command line. -/
def Arguments.parse (words : List Text) : Except UsageError Arguments := do
  (← words.foldlM Progress.next {}).settle

end Command

end PromptWeave
