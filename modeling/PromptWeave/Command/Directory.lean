import PromptWeave.Text.Basic

/-! Files and the faults of reading them.

A directory is the list of its files with their texts; the name of a file holds slashes where the
file lies in a directory further down. -/

namespace PromptWeave

namespace Command

/-- Why a text cannot be read. -/
inductive ReadFault where
  /-- There is no file at the path. -/
  | missing
  /-- A part of the path that is followed by others is a file. -/
  | notDirectory
  /-- There is a directory at the path. -/
  | isDirectory
  /-- The path, or one of its parts, is longer than a path or a name may be. -/
  | nameTooLong
  /-- The bytes are not UTF-8. -/
  | notUtf8
  /-- Another fault, as the system describes it. -/
  | other (description : Text)
deriving DecidableEq

/-- The message for a fault. -/
def ReadFault.message : ReadFault → Text
  | missing => "No such file or directory (os error 2)".toList
  | notDirectory => "Not a directory (os error 20)".toList
  | isDirectory => "Is a directory (os error 21)".toList
  | nameTooLong => "File name too long (os error 36)".toList
  | notUtf8 => "stream did not contain valid UTF-8".toList
  | other description => description

/-- The files in a directory, by their names. -/
structure Directory where
  files : List (Text × Text) := []

namespace Directory

/-- The steps to a file of the directory: the parts of its name but empty parts and single dots. -/
def steps (path : Text) : List Text :=
  (Text.pieces '/' path).filter fun part => part ≠ [] ∧ part ≠ ['.']

/-- The file at the end of steps from the directory. -/
def file? (d : Directory) (steps : List Text) : Option Text :=
  (d.files.find? fun file => Directory.steps file.1 = steps).map Prod.snd

/-- Files lie at or below the end of steps from the directory. -/
def reaches (d : Directory) (steps : List Text) : Bool :=
  steps = [] || d.files.any fun file => steps.isPrefixOf (Directory.steps file.1)

/-- Where a path may lead. -/
inductive Place where
  /-- A file with its text. -/
  | file (text : Text)
  /-- The directory itself, or one below it, at the end of steps. -/
  | inside (steps : List Text)
  /-- One of the directories above, of which nothing else is known. -/
  | outside
deriving DecidableEq

/-- The number of bytes of a text in UTF-8. -/
def byteCount (t : Text) : Nat :=
  (String.ofList t).utf8ByteSize

/-- The number of bytes that the name of a file may have. -/
def greatestName : Nat := 255

/-- The number of bytes that a path may have. -/
def greatestPath : Nat := 4095

/-- Goes on from a directory to the file or directory of a name. -/
def enter (d : Directory) (place : Place) (name : Text) : Except ReadFault Place :=
  if greatestName < byteCount name then .error .nameTooLong
  else
    match place with
    | .inside steps =>
      match d.file? (steps ++ [name]) with
      | some text => .ok (.file text)
      | none =>
        if d.reaches (steps ++ [name]) then .ok (.inside (steps ++ [name])) else .error .missing
    | _ => .error .missing

/-- The directory above a directory. -/
def above : Place → Place
  | .inside (step :: steps) => .inside (step :: steps).dropLast
  | _ => .outside

/-- Goes on from a place by one part of a path. An empty part or a dot stays in a directory, and
two dots leave it. Nothing goes on from a file. -/
def follow (d : Directory) (place : Place) (part : Text) : Except ReadFault Place :=
  match place with
  | .file _ => .error .notDirectory
  | _ =>
    if part = [] ∨ part = ['.'] then .ok place
    else if part = ['.', '.'] then .ok (above place)
    else d.enter place part

/-- The place at the end of a path. A path that begins with a slash starts from the root, which
lies above the directory. -/
def find (d : Directory) (path : Text) : Except ReadFault Place :=
  if greatestPath < byteCount path then .error .nameTooLong
  else if path = [] then .error .missing
  else
    (Text.pieces '/' path).foldlM d.follow
      (if path.head? = some '/' then .outside else .inside [])

/-- The text of the file at a path. -/
def read (d : Directory) (path : Text) : Except ReadFault Text :=
  match d.find path with
  | .ok (.file text) => .ok text
  | .ok _ => .error .isDirectory
  | .error fault => .error fault

example : ((Directory.mk [("a/b".toList, ['t'])]).read "./a/../a//b".toList).toOption =
    some ['t'] := by
  decide +kernel
example : ((Directory.mk [("b".toList, [])]).find "b/..".toList).toOption = none := by
  decide +kernel

end Directory

end Command

end PromptWeave
