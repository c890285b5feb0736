import PromptWeave.Text.Basic

/-! TOML documents.

A document is a tree of tables. How a table came into being decides what may still be added to
it: a table with a header of its own is open until the next header, one that is only a part of
the path in a header may still get a header, one that is made by dotted keys may get further
dotted keys, and an inline table is closed. -/

namespace PromptWeave

namespace Toml

/-- How a table came into being. -/
inductive Form where
  /-- The table has a header, or is the document itself. -/
  | headed
  /-- The table stands in the path of a header. -/
  | implied
  /-- The table stands in front of a dot in a key. -/
  | dotted
  /-- The table is written between braces. -/
  | inline
deriving DecidableEq

end Toml

/-- A part of a document. Of numbers with a fraction and of dates and times, only the way in which
they are written is kept. -/
inductive Toml where
  | text (value : Text)
  | flag (value : Bool)
  | integer (value : Int)
  | float (written : Text)
  | moment (written : Text)
  | list (items : List Toml)
  | table (form : Toml.Form) (entries : List (Text × Toml))
  /-- The tables with a common header in double brackets. -/
  | tables (all : List (List (Text × Toml)))

namespace Toml

/-- The entries of a table. -/
abbrev Entries := List (Text × Toml)

namespace Entries

/-- The value of a key. -/
def get? (entries : Entries) (key : Text) : Option Toml :=
  (entries.find? fun entry => entry.1 = key).map Prod.snd

/-- Gives a value to a key, in the place of an earlier value if there is one. -/
def set (key : Text) (value : Toml) : Entries → Entries
  | [] => [(key, value)]
  | (k, v) :: rest => if k = key then (key, value) :: rest else (k, v) :: set key value rest

/-- Changes the table at the end of a path that starts in a table of the given form. Tables that
are missing on the way are made. The path of a dotted key may not run through tables that have
headers, and no path runs through an inline table or through anything but tables. -/
def change (dotted : Bool) (f : Form → Entries → Option Entries) :
    (path : List Text) → Form → Entries → Option Entries
  | [], form, entries => f form entries
  | key :: path, _, entries =>
    match entries.get? key with
    | none => do
      let form := if dotted then .dotted else .implied
      let inner ← change dotted f path form []
      return entries.set key (.table form inner)
    | some (.table form inner) =>
      if form = .inline ∨ (dotted ∧ form = .headed) then none
      else do
        let inner ← change dotted f path form inner
        return entries.set key (.table form inner)
    | some (.tables all) =>
      match all.getLast? with
      | none => none
      | some last => do
        let last ← change dotted f path .headed last
        return entries.set key (.tables (all.dropLast ++ [last]))
    | some _ => none

/-- Gives a value to a dotted key of a table, which may not have one yet. What stands in front of
the last dot has to be a table made by dotted keys. -/
def define (form : Form) (path : List Text) (key : Text) (value : Toml) (entries : Entries) :
    Option Entries :=
  change true
    (fun form entries =>
      if (form = .dotted ↔ path = []) ∨ (entries.get? key).isSome then none
      else some (entries.set key value))
    path form entries

/-- Opens the table of a header. It may only be known as a part of the paths in other headers. -/
def openTable (path : List Text) (key : Text) (entries : Entries) : Option Entries :=
  change false
    (fun _ entries =>
      match entries.get? key with
      | none => some (entries.set key (.table .headed []))
      | some (.table .implied inner) => some (entries.set key (.table .headed inner))
      | some _ => none)
    path .headed entries

/-- Opens another table of a header in double brackets. -/
def openNext (path : List Text) (key : Text) (entries : Entries) : Option Entries :=
  change false
    (fun _ entries =>
      match entries.get? key with
      | none => some (entries.set key (.tables [[]]))
      | some (.tables all) => some (entries.set key (.tables (all ++ [[]])))
      | some _ => none)
    path .headed entries

end Entries

end Toml

end PromptWeave
