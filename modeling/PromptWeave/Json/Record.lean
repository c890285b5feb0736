import PromptWeave.Json.Read
import PromptWeave.Json.Skip
import PromptWeave.Json.Write

/-! Records.

A record type is described by its fields, in order. From the description follow the reader, which
takes an object with the fields in any order or a list of their values, and the writer, which
writes the fields in order. -/

namespace PromptWeave

namespace Json

/-- How values of a type are read and written. -/
structure Shape (α : Type) where
  read : (depth : Nat) → Text → Except Fault (α × Text)
  write : α → Json

namespace Shape

/-- Texts are written as strings. -/
def text : Shape Text where
  read _ s := readText "a string".toList s
  write := .text

/-- Truth values. -/
def flag : Shape Bool where
  read _ s := readFlag s
  write := .flag

/-- Integers from `low` to `high`; `name` is their name in messages. -/
def integer (name : Text) (low high : Int) : Shape Int where
  read _ s := readInteger name low high s
  write n := .number (.integer n)

/-- Natural numbers up to `high`; `name` is their name in messages. -/
def natural (name : Text) (high : Nat) : Shape Nat where
  read _ s := (readInteger name 0 high s).map fun (n, s) => (n.toNat, s)
  write n := .number (.integer n)

/-- The values in `all` are written as their names. -/
def named (all : List α) (name : α → Text) : Shape α where
  read := readNamed all name
  write a := .text (name a)

/-- Lists of values. -/
def list (shape : Shape α) : Shape (List α) where
  read := readList shape.read
  write items := .array (items.map shape.write)

/-- Values of another type that carry the same data. -/
def map (shape : Shape α) (f : α → β) (data : β → α) : Shape β where
  read depth s := (shape.read depth s).map fun (a, s) => (f a, s)
  write b := shape.write (data b)

/-- Reads a text that is a value of the type and nothing else. -/
def parse (shape : Shape α) (s : Text) : Except Fault α :=
  parseWith shape.read s

end Shape

/-! ## Fields and rows -/

/-- A field of a record. -/
structure Field where
  {type : Type}
  key : Text
  shape : Shape type

/-- The values of fields, in order. -/
def Row : List Field → Type
  | [] => Unit
  | f :: fs => f.type × Row fs

/-- The values of some of the fields, in order. -/
def PartialRow : List Field → Type
  | [] => Unit
  | f :: fs => Option f.type × PartialRow fs

/-- No values. -/
def PartialRow.empty : (fields : List Field) → PartialRow fields
  | [] => ()
  | _ :: fs => (none, PartialRow.empty fs)

/-- All values, or the key of the first field without a value. -/
def PartialRow.complete : (fields : List Field) → PartialRow fields → Except Text (Row fields)
  | [], () => .ok ()
  | _ :: fs, (some v, row) => (PartialRow.complete fs row).map fun row => (v, row)
  | f :: _, (none, _) => .error f.key

/-- The values, and those of another row where there are none. -/
def PartialRow.orElse : (fields : List Field) → PartialRow fields → Row fields → Row fields
  | [], (), () => ()
  | _ :: fs, (v, row), (w, others) => (v.getD w, PartialRow.orElse fs row others)

/-- The members of an object with the values of a row. -/
def Row.members : (fields : List Field) → Row fields → Members
  | [], () => []
  | f :: fs, (v, row) => (f.key, f.shape.write v) :: Row.members fs row

/-- Reads the value of a field into a row, after the key `key`. There is none if no field has the
key; a field that has a value already is refused. -/
def PartialRow.readField (depth : Nat) (key : Text) (s : Text) :
    (fields : List Field) → PartialRow fields →
      Option (Except Fault (PartialRow fields × Text))
  | [], () => none
  | f :: fs, (v, row) =>
    if f.key = key then
      some <|
        if v.isSome then .error (.duplicateField key)
        else do
          let (w, s) ← f.shape.read depth (← readColon s)
          return ((some w, row), s)
    else
      (PartialRow.readField depth key s fs row).map fun r => r.map fun (row, s) => ((v, row), s)

/-- Reads the values of fields from the items of a list, and counts them. Items may be missing at
the end. -/
def PartialRow.readList (depth : Nat) :
    (fields : List Field) → (first : Bool) → Text →
      Except Fault ((PartialRow fields × Nat) × Text)
  | [], _, s => .ok (((), 0), s)
  | f :: fs, first, s => do
    match ← nextItem first s with
    | none => return ((PartialRow.empty (f :: fs), 0), s)
    | some s =>
      let (v, s) ← f.shape.read depth s
      let ((row, n), s) ← PartialRow.readList depth fs false s
      return (((some v, row), n + 1), s)

/-! ## Records -/

/-- What becomes of the members of an object that are not fields. -/
inductive Unknown where
  /-- They are passed over. -/
  | skipped
  /-- They are kept. -/
  | kept
  /-- They are refused. -/
  | refused

/-- Reads the members of an object into a row and into the members that are not fields. -/
def readFields (fields : List Field) (unknown : Unknown) (depth : Nat) (s : Text) :
    Except Fault ((PartialRow fields × Members) × Text) :=
  readMembers
    (fun (row, others) key s =>
      match row.readField depth key s fields with
      | some r => r.map fun (row, s) => ((row, others), s)
      | none =>
        match unknown with
        | .skipped => do
          let s ← skipValue (← readColon s)
          return ((row, others), s)
        | .kept => do
          let (value, s) ← readValue depth (← readColon s)
          return ((row, others.insert key value), s)
        | .refused => .error (.unknownField key (fields.map Field.key)))
    s.length true (PartialRow.empty fields, []) s

/-- A record type: its name in messages, its fields, and how values of the type relate to rows. A
type with a standard value takes from it what a text leaves out. -/
structure Record (α : Type) where
  name : Text
  fields : List Field
  ofRow : Row fields → α
  toRow : α → Row fields
  standard? : Option α := none
  unknown : Unknown := .skipped

namespace Record

/-- The value of a row in which values may be missing. -/
def complete (record : Record α) (row : PartialRow record.fields) : Except Fault α :=
  match record.standard? with
  | some a => .ok (record.ofRow (row.orElse record.fields (record.toRow a)))
  | none =>
    match row.complete record.fields with
    | .ok row => .ok (record.ofRow row)
    | .error key => .error (.missingField key)

/-- The phrase for the type in messages. -/
def wanted (record : Record α) : Text :=
  "struct ".toList ++ record.name

/-- The phrase for the type and the number of its fields in messages. -/
def wantedLength (record : Record α) : Text :=
  record.wanted ++ " with ".toList ++ Text.ofNat record.fields.length ++ " elements".toList

/-- Reads a record from an object, after its opening brace. -/
def readObject (record : Record α) (depth : Nat) (s : Text) : Except Fault (α × Text) := do
  let ((row, _), s) ← readFields record.fields record.unknown depth s
  return (← record.complete row, s)

/-- Reads a record from a list, after its opening bracket. -/
def readList (record : Record α) (depth : Nat) (s : Text) : Except Fault (α × Text) := do
  let ((row, n), s) ← PartialRow.readList depth record.fields true s
  if n < record.fields.length ∧ record.standard?.isNone then
    throw (.invalidLength n record.wantedLength)
  let a ← record.complete row
  return (a, ← endList s)

/-- Reads a record. -/
def read (record : Record α) (depth : Nat) (s : Text) : Except Fault (α × Text) :=
  match skipSpace s with
  | [] => .error (.unfinished .value)
  | c :: s =>
    if c = '[' ∨ c = '{' then
      match depth with
      | 0 => .error .nestedTooDeep
      | depth + 1 => if c = '[' then record.readList depth s else record.readObject depth s
    else .error (unwanted record.wanted c s)

/-- The shape of a record type. -/
def shape (record : Record α) : Shape α where
  read := record.read
  write a := .object (Row.members record.fields (record.toRow a))

end Record

end Json

end PromptWeave
