import PromptWeave.Json.Literal
import PromptWeave.Json.Number
import PromptWeave.Json.Token

/-! Reading of values.

All readers start at the first character that is not yet read and give the rest of the text. They
take the number of brackets that may still be opened inside each other. -/

namespace PromptWeave

namespace Json

/-- The number of brackets that may be open at the same time. -/
def greatestDepth : Nat := 127

/-! ## Lists and objects -/

/-- Whether another item of a list follows, and where it starts. The bracket that closes the list
is not taken. -/
def nextItem (first : Bool) (s : Text) : Except Fault (Option Text) :=
  match skipSpace s with
  | [] => .error (.unfinished .list)
  | c :: s =>
    if c = ']' then .ok none
    else if first then .ok (some (c :: s))
    else if c = ',' then
      match skipSpace s with
      | [] => .error (.unfinished .value)
      | c :: s => if c = ']' then .error .trailingComma else .ok (some (c :: s))
    else .error .expectedCommaOrBracket

/-- Reads the end of a list that may have no further items. -/
def endList (s : Text) : Except Fault Text :=
  match skipSpace s with
  | [] => .error (.unfinished .list)
  | c :: s =>
    if c = ']' then .ok s
    else if c = ',' ∧ (skipSpace s).head? = some ']' then .error .trailingComma
    else .error .trailingCharacters

/-- Reads the items of a list up to its end. Each item takes at least one character, so that the
length of the text bounds their number. -/
def readItems (read : Text → Except Fault (α × Text)) :
    (fuel : Nat) → (first : Bool) → Text → Except Fault (List α × Text)
  | 0, _, _ => .error (.unfinished .list)
  | fuel + 1, first, s => do
    match ← nextItem first s with
    | none => return ([], ← endList s)
    | some s =>
      let (item, s) ← read s
      let (items, s) ← readItems read fuel false s
      return (item :: items, s)

/-- Whether another member of an object follows: the text after the quote that opens its key, or
the text after the end of the object. -/
def nextKey (first : Bool) (s : Text) : Except Fault (Text ⊕ Text) :=
  match skipSpace s with
  | [] => .error (.unfinished .object)
  | c :: s =>
    if c = '}' then .ok (.inr s)
    else if first then
      if c = '"' then .ok (.inl s) else .error .keyMustBeString
    else if c = ',' then
      match skipSpace s with
      | [] => .error (.unfinished .value)
      | c :: s =>
        if c = '"' then .ok (.inl s)
        else if c = '}' then .error .trailingComma
        else .error .keyMustBeString
    else .error .expectedCommaOrBrace

/-- Reads the colon after a key. -/
def readColon (s : Text) : Except Fault Text :=
  match skipSpace s with
  | [] => .error (.unfinished .object)
  | c :: s => if c = ':' then .ok s else .error .expectedColon

/-- Reads the members of an object up to its end. After each key, `read` adds the member to what
was read before. -/
def readMembers (read : α → (key : Text) → Text → Except Fault (α × Text)) :
    (fuel : Nat) → (first : Bool) → α → Text → Except Fault (α × Text)
  | 0, _, _, _ => .error (.unfinished .object)
  | fuel + 1, first, a, s => do
    match ← nextKey first s with
    | .inr s => return (a, s)
    | .inl s =>
      let (key, s) ← readLiteral s
      let (a, s) ← read a key s
      readMembers read fuel false a s

/-! ## Values of any kind -/

/-- Reads a value that is neither a list nor an object, from its first character. -/
def readScalar (c : Char) (s : Text) : Except Fault (Json × Text) :=
  if c = 'n' then (word "ull".toList s).map fun s => (.null, s)
  else if c = 't' then (word "rue".toList s).map fun s => (.flag true, s)
  else if c = 'f' then (word "alse".toList s).map fun s => (.flag false, s)
  else if c = '"' then (readLiteral s).map fun (t, s) => (.text t, s)
  else if c = '-' ∨ c.isDigit then (readNumber (c :: s)).map fun (n, s) => (.number n, s)
  else .error .expectedValue

/-- Reads a value; `readList` and `readObject` read what follows an opening bracket. -/
def readValueWith (readList : Text → Except Fault (List Json × Text))
    (readObject : Text → Except Fault (Members × Text)) (s : Text) :
    Except Fault (Json × Text) :=
  match skipSpace s with
  | [] => .error (.unfinished .value)
  | c :: s =>
    if c = '[' then (readList s).map fun (items, s) => (.array items, s)
    else if c = '{' then (readObject s).map fun (members, s) => (.object members, s)
    else readScalar c s

/-- Reads the value of a key and adds it to the members of an object. -/
def readMember (read : Text → Except Fault (Json × Text)) (members : Members) (key s : Text) :
    Except Fault (Members × Text) := do
  let (value, s) ← read (← readColon s)
  return (members.insert key value, s)

/-- Reads a value. The members of objects are sorted by their keys, and of several values of one
key the last is kept. -/
def readValue : (depth : Nat) → Text → Except Fault (Json × Text)
  | 0, s => readValueWith (fun _ => .error .nestedTooDeep) (fun _ => .error .nestedTooDeep) s
  | depth + 1, s =>
    readValueWith (fun s => readItems (readValue depth) s.length true s)
      (fun s => readMembers (readMember (readValue depth)) s.length true [] s)
      s

/-! ## Values of a given kind -/

/-- Why a value is refused that is not of the wanted kind. Words, numbers and strings are read to
their ends first, so that they can be shown. -/
def unwanted (wanted : Text) (c : Char) (s : Text) : Fault :=
  if c = '[' then .invalidType .sequence wanted
  else if c = '{' then .invalidType .map wanted
  else
    match readScalar c s with
    | .error fault => fault
    | .ok (.flag b, _) => .invalidType (.flag b) wanted
    | .ok (.number n, _) => .invalidType (.number n) wanted
    | .ok (.text t, _) => .invalidType (.text t) wanted
    | .ok (_, _) => .invalidType .null wanted

/-- Reads a text. -/
def readText (wanted : Text) (s : Text) : Except Fault (Text × Text) :=
  match skipSpace s with
  | [] => .error (.unfinished .value)
  | c :: s => if c = '"' then readLiteral s else .error (unwanted wanted c s)

/-- Reads a truth value. -/
def readFlag (s : Text) : Except Fault (Bool × Text) :=
  match skipSpace s with
  | [] => .error (.unfinished .value)
  | c :: s =>
    if c = 't' then (word "rue".toList s).map fun s => (true, s)
    else if c = 'f' then (word "alse".toList s).map fun s => (false, s)
    else .error (unwanted "a boolean".toList c s)

/-- Reads the value that stands for nothing. -/
def readNull (s : Text) : Except Fault Text :=
  match skipSpace s with
  | [] => .error (.unfinished .value)
  | c :: s =>
    if c = 'n' then word "ull".toList s else .error (unwanted "unit".toList c s)

/-- Reads an integer from `low` to `high`. -/
def readInteger (wanted : Text) (low high : Int) (s : Text) : Except Fault (Int × Text) :=
  match skipSpace s with
  | [] => .error (.unfinished .value)
  | c :: s =>
    if c = '-' ∨ c.isDigit then do
      match ← readNumber (c :: s) with
      | (.float x, _) => throw (.invalidType (.number (.float x)) wanted)
      | (.integer n, s) =>
        if low ≤ n ∧ n ≤ high then return (n, s)
        else throw (.invalidValue (.number (.integer n)) wanted)
    else .error (unwanted wanted c s)

/-- Reads a list of values that `read` reads, with one bracket less to open inside it. -/
def readList (read : Nat → Text → Except Fault (α × Text)) (depth : Nat) (s : Text) :
    Except Fault (List α × Text) :=
  match skipSpace s with
  | [] => .error (.unfinished .value)
  | c :: s =>
    if c = '[' then
      match depth with
      | 0 => .error .nestedTooDeep
      | depth + 1 => readItems (read depth) s.length true s
    else .error (unwanted "a sequence".toList c s)

/-- Reads an object with any members. -/
def readMap (depth : Nat) (s : Text) : Except Fault (Members × Text) :=
  match skipSpace s with
  | [] => .error (.unfinished .value)
  | c :: s =>
    if c = '{' then
      match depth with
      | 0 => .error .nestedTooDeep
      | depth + 1 => readMembers (readMember (readValue depth)) s.length true [] s
    else .error (unwanted "a map".toList c s)

/-- Finds the member of `all` with a given name. -/
def named (all : List α) (name : α → Text) (t : Text) : Except Fault α :=
  match all.find? fun a => name a = t with
  | some a => .ok a
  | none => .error (.unknownVariant t (all.map name))

/-- The text after the quote that opens the only key of an object. Anything else in its place is
refused as it is in front of any other key. -/
def nameStart (s : Text) : Except Fault Text :=
  match skipSpace s with
  | [] => .error (.unfinished .object)
  | c :: s =>
    if c = '"' then .ok s
    else if c = '}' then .error .expectedValue
    else .error .keyMustBeString

/-- Reads one of the values in `all` by its name: a string, or an object whose only key is the
name, with the value that stands for nothing. -/
def readNamed (all : List α) (name : α → Text) (depth : Nat) (s : Text) :
    Except Fault (α × Text) :=
  match skipSpace s with
  | [] => .error (.unfinished .value)
  | c :: s =>
    if c = '"' then do
      let (t, s) ← readLiteral s
      return (← named all name t, s)
    else if c = '{' then
      match depth with
      | 0 => .error .nestedTooDeep
      | _ + 1 => do
        let (t, s) ← readLiteral (← nameStart s)
        let a ← named all name t
        let s ← readNull (← readColon s)
        match skipSpace s with
        | [] => throw (.unfinished .object)
        | c :: s => if c = '}' then return (a, s) else throw .expectedValue
    else .error .expectedValue

/-- Reads a text that is a value and nothing else. -/
def parseWith (read : Nat → Text → Except Fault (α × Text)) (s : Text) : Except Fault α := do
  let (a, s) ← read greatestDepth s
  if skipSpace s = [] then return a else throw .trailingCharacters

end Json

end PromptWeave
