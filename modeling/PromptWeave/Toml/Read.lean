import PromptWeave.Toml.Scalar

/-! Reading of documents. -/

namespace PromptWeave

namespace Toml

/-- The number of brackets that may be open at the same time in a value, and of the keys that may
stand in a row with dots between them. -/
def greatestDepth : Nat := 80

/-- Skips space, ends of lines and comments; `inComment` tells whether a comment has begun. -/
def skipTrivia (inComment : Bool) : Text → Option Text
  | [] => some []
  | c :: s =>
    if c = '\n' then skipTrivia false s
    else if c = '\r' then
      match s with
      | '\n' :: s => skipTrivia false s
      | _ => none
    else if inComment then
      if isControl c then none else skipTrivia true s
    else if isSpace c then skipTrivia false s
    else if c = '#' then skipTrivia true s
    else some (c :: s)

/-- Reads the end of a line, and skips what may stand before the next key or header. -/
def endLine (s : Text) : Option Text :=
  match skipSpace s with
  | [] => some []
  | c :: s => if c ∈ ['\n', '\r', '#'] then skipTrivia false (c :: s) else none

/-! ## Keys -/

/-- A character of a key without quotes. -/
def isKeyChar (c : Char) : Bool :=
  c.isAlphanum || c == '_' || c == '-'

/-- Reads a key without dots. -/
def readKey (s : Text) : Option (Text × Text) :=
  match s.head? with
  | some '"' => readLineString s
  | some '\'' => readLineString s
  | _ =>
    let key := s.takeWhile isKeyChar
    if key = [] then none else some (key, s.dropWhile isKeyChar)

/-- Reads keys with dots between them, `most` of them at most. -/
def readKeys : (most : Nat) → Text → Option (List Text × Text)
  | 0, _ => none
  | most + 1, s => do
    let (key, s) ← readKey s
    match skipSpace s with
    | '.' :: s => do
      let (keys, s) ← readKeys most (skipSpace s)
      return (key :: keys, s)
    | _ => return ([key], s)

/-- Reads a dotted key: what stands in front of the last dot, and the last key. -/
def readPath (s : Text) : Option ((List Text × Text) × Text) := do
  let (keys, s) ← readKeys greatestDepth s
  return ((keys.dropLast, ← keys.getLast?), s)

/-! ## Values -/

/-- Reads a key, the sign behind it, and its value. What `skip` skips may stand on both sides of
the sign. -/
def readEntry (skip : Text → Option Text) (read : Text → Option (Toml × Text)) (s : Text) :
    Option (((List Text × Text) × Toml) × Text) := do
  let (key, s) ← readPath s
  let s ← expect '=' (← skip s)
  let (value, s) ← read (← skip s)
  return ((key, value), s)

/-- Reads the items of a list up to its end. A comma may follow the last item. -/
def readItems (read : Text → Option (Toml × Text)) :
    (fuel : Nat) → Text → Option (List Toml × Text)
  | 0, _ => none
  | fuel + 1, s => do
    match ← skipTrivia false s with
    | ']' :: s => return ([], s)
    | s =>
      let (item, s) ← read s
      match ← skipTrivia false s with
      | ',' :: s => do
        let (items, s) ← readItems read fuel s
        return (item :: items, s)
      | ']' :: s => return ([item], s)
      | _ => none

/-- Reads the entries of an inline table up to its end. Lines may end anywhere between its tokens,
except inside a dotted key. A comma may follow the last entry. -/
def readEntries (read : Text → Option (Toml × Text)) :
    (fuel : Nat) → Entries → Text → Option (Entries × Text)
  | 0, _, _ => none
  | fuel + 1, entries, s => do
    match ← skipTrivia false s with
    | '}' :: s => return (entries, s)
    | s =>
      let (((path, key), value), s) ← readEntry (skipTrivia false) read s
      let entries ← entries.define .inline path key value
      match ← skipTrivia false s with
      | ',' :: s => readEntries read fuel entries s
      | '}' :: s => return (entries, s)
      | _ => none

/-- Reads a value; `readList` and `readInline` read what follows an opening bracket. -/
def readValueWith (readList readInline : Text → Option (Toml × Text)) (s : Text) :
    Option (Toml × Text) :=
  match s with
  | '[' :: s => readList s
  | '{' :: s => readInline s
  | s =>
    if s.head? = some '"' ∨ s.head? = some '\'' then
      (readString s).map fun (t, s) => (.text t, s)
    else readScalar s

/-- Reads a value. -/
def readValue : (depth : Nat) → Text → Option (Toml × Text)
  | 0, s => readValueWith (fun _ => none) (fun _ => none) s
  | depth + 1, s =>
    readValueWith
      (fun s => (readItems (readValue depth) (s.length + 1) s).map fun (items, s) =>
        (.list items, s))
      (fun s => (readEntries (readValue depth) (s.length + 1) [] s).map fun (entries, s) =>
        (.table .inline entries, s))
      s

/-! ## Documents -/

/-- Gives a value to a dotted key of the table at the end of a path. -/
def Entries.defineAt (current path : List Text) (key : Text) (value : Toml) (root : Entries) :
    Option Entries :=
  change false (fun form entries => entries.define form path key value) current .headed root

/-- Reads the keys and headers of a document, with the path of the table that is open. Each takes
at least one character. -/
def readDocument : (fuel : Nat) → (current : List Text) → Entries → Text → Option Entries
  | _, _, root, [] => some root
  | 0, _, _, _ => none
  | fuel + 1, _, root, '[' :: '[' :: s => do
    let ((path, key), s) ← readPath (skipSpace s)
    let s ← expect ']' (← expect ']' (skipSpace s))
    readDocument fuel (path ++ [key]) (← root.openNext path key) (← endLine s)
  | fuel + 1, _, root, '[' :: s => do
    let ((path, key), s) ← readPath (skipSpace s)
    let s ← expect ']' (skipSpace s)
    readDocument fuel (path ++ [key]) (← root.openTable path key) (← endLine s)
  | fuel + 1, current, root, s => do
    let (((path, key), value), s) ← readEntry (some <| skipSpace ·) (readValue greatestDepth) s
    readDocument fuel current (← root.defineAt current path key value) (← endLine s)

/-- A text without the byte order mark at its start. -/
def dropMark : Text → Text
  | '\ufeff' :: s => s
  | s => s

/-- Reads a document. -/
def parse (s : Text) : Option Entries := do
  let s ← skipTrivia false (dropMark s)
  readDocument s.length [] [] s

end Toml

end PromptWeave
