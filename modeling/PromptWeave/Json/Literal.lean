import PromptWeave.Json.Fault

/-! String literals: writing texts in quotes and reading them back.

The writer escapes quotes, backslashes and control characters, and nothing else. The reader knows
all escapes of JSON; those of surrogates have to come in pairs. Reading the literal of a text gives
the text back (`readLiteral_append`). -/

namespace PromptWeave

namespace Json

/-- The letter that escapes a character, where there is one. -/
def escapeLetter? (c : Char) : Option Char :=
  if c = '"' then some '"'
  else if c = '\\' then some '\\'
  else if c = '\x08' then some 'b'
  else if c = '\t' then some 't'
  else if c = '\n' then some 'n'
  else if c = '\x0c' then some 'f'
  else if c = '\r' then some 'r'
  else none

/-- The character that a letter after a backslash stands for. -/
def unescape? (c : Char) : Option Char :=
  if c = '"' then some '"'
  else if c = '\\' then some '\\'
  else if c = '/' then some '/'
  else if c = 'b' then some '\x08'
  else if c = 'f' then some '\x0c'
  else if c = 'n' then some '\n'
  else if c = 'r' then some '\r'
  else if c = 't' then some '\t'
  else none

/-- A control character, which may not stand in a literal. -/
def isControl (c : Char) : Bool :=
  c.toNat < 0x20

/-- A character as it stands in a literal. -/
def literalChar (c : Char) : Text :=
  match escapeLetter? c with
  | some e => ['\\', e]
  | none =>
    if isControl c then
      ['\\', 'u', '0', '0', Nat.digitChar (c.toNat / 16), Nat.digitChar (c.toNat % 16)]
    else [c]

/-- The literal of a text. -/
def literal (s : Text) : Text :=
  '"' :: s.flatMap literalChar ++ ['"']

/-! ## Reading -/

/-- The number that four hexadecimal digits write. -/
def hexQuad? (a b c d : Char) : Option Nat := do
  let digits ← [a, b, c, d].mapM (Text.digitIn? 16)
  return Text.valueOf 16 digits

/-- Why fewer than four characters after the letter of an escape are refused. The end counts in
bytes, of which characters outside ASCII have several. -/
def shortEscape (s : Text) : Fault :=
  if 4 ≤ (String.ofList s).utf8ByteSize then .invalidEscape else .unfinished .string

/-- A code unit that begins a surrogate pair. -/
def isLeading (n : Nat) : Bool :=
  0xD800 ≤ n && n ≤ 0xDBFF

/-- A code unit that ends a surrogate pair. -/
def isTrailing (n : Nat) : Bool :=
  0xDC00 ≤ n && n ≤ 0xDFFF

/-- The character of a surrogate pair. -/
def pairChar (n m : Nat) : Char :=
  Char.ofNat ((n - 0xD800) * 0x400 + (m - 0xDC00) + 0x10000)

/-- Puts a character in front of what was read. -/
def consRead (c : Char) (r : Except Fault (Text × Text)) : Except Fault (Text × Text) :=
  r.map fun (read, rest) => (c :: read, rest)

/-- Reads the rest of a literal after its opening quote. -/
def readLiteral : Text → Except Fault (Text × Text)
  | [] => .error (.unfinished .string)
  | c :: s =>
    if c = '"' then .ok ([], s)
    else if c = '\\' then
      match s with
      | [] => .error (.unfinished .string)
      | 'u' :: x₁ :: x₂ :: x₃ :: x₄ :: s =>
        match hexQuad? x₁ x₂ x₃ x₄ with
        | none => .error .invalidEscape
        | some n =>
          if isTrailing n then .error .loneSurrogate
          else if isLeading n then
            match s with
            | '\\' :: 'u' :: y₁ :: y₂ :: y₃ :: y₄ :: s =>
              match hexQuad? y₁ y₂ y₃ y₄ with
              | none => .error .invalidEscape
              | some m =>
                if isTrailing m then consRead (pairChar n m) (readLiteral s)
                else .error .loneSurrogate
            | '\\' :: 'u' :: s => .error (shortEscape s)
            | [] | ['\\'] => .error (.unfinished .string)
            | _ => .error .unfinishedSurrogatePair
          else consRead (Char.ofNat n) (readLiteral s)
      | 'u' :: s => .error (shortEscape s)
      | e :: s =>
        match unescape? e with
        | none => .error .invalidEscape
        | some d => consRead d (readLiteral s)
    else if isControl c then .error .controlCharacter
    else consRead c (readLiteral s)

/-- An escape of one letter stands for the character of the letter. -/
theorem readLiteral_lettered {e c : Char} (s : Text) (h : unescape? e = some c) :
    readLiteral ('\\' :: e :: s) = consRead c (readLiteral s) := by
  have hu : e ≠ 'u' := by rintro rfl; simp [unescape?] at h
  rw [readLiteral.eq_def]
  simp [h, hu]

/-- An escape of four digits stands for the character with that number, unless it is part of a
pair. -/
theorem readLiteral_numbered {a b c d : Char} {n : Nat} (s : Text)
    (h : hexQuad? a b c d = some n) (hl : isLeading n = false) (ht : isTrailing n = false) :
    readLiteral ('\\' :: 'u' :: a :: b :: c :: d :: s) =
      consRead (Char.ofNat n) (readLiteral s) := by
  rw [readLiteral.eq_def]
  simp [h, hl, ht]

theorem unescape?_of_escapeLetter? {c e : Char} (h : escapeLetter? c = some e) :
    unescape? e = some c := by
  unfold escapeLetter? at h
  repeat' split at h
  all_goals simp_all
  all_goals subst h; decide

theorem ne_of_escapeLetter?_eq_none {c : Char} (h : escapeLetter? c = none) :
    c ≠ '"' ∧ c ≠ '\\' := by
  constructor <;> (rintro rfl; cases h)

theorem hexQuad?_of_lt : ∀ n : Fin 32,
    hexQuad? '0' '0' (Nat.digitChar (n / 16)) (Nat.digitChar (n % 16)) = some n.val := by
  decide

/-- A written character is read as that character. -/
theorem readLiteral_literalChar (c : Char) (s : Text) :
    readLiteral (literalChar c ++ s) = consRead c (readLiteral s) := by
  unfold literalChar
  cases he : escapeLetter? c with
  | some e => exact readLiteral_lettered s (unescape?_of_escapeLetter? he)
  | none =>
    by_cases hc : isControl c
    · have hn : c.toNat < 32 := by simpa [isControl] using hc
      have h := readLiteral_numbered s (hexQuad?_of_lt ⟨c.toNat, hn⟩)
        (by simp [isLeading]; omega) (by simp [isTrailing]; omega)
      simpa [hc] using h
    · obtain ⟨hq, hb⟩ := ne_of_escapeLetter?_eq_none he
      rw [readLiteral.eq_def]
      simp [hc, hq, hb]

/-- Reading the literal of a text gives the text back, whatever follows the literal. -/
theorem readLiteral_append (t s : Text) :
    readLiteral (t.flatMap literalChar ++ '"' :: s) = .ok (t, s) := by
  induction t with
  | nil =>
    rw [readLiteral.eq_def]
    simp
  | cons c t ih =>
    rw [List.flatMap_cons, List.append_assoc, readLiteral_literalChar, ih]
    rfl

/-- Passes over the rest of a literal after its opening quote. Here surrogates need no
partners. -/
def skipLiteral : Text → Except Fault Text
  | [] => .error (.unfinished .string)
  | c :: s =>
    if c = '"' then .ok s
    else if c = '\\' then
      match s with
      | [] => .error (.unfinished .string)
      | 'u' :: x₁ :: x₂ :: x₃ :: x₄ :: s =>
        if (hexQuad? x₁ x₂ x₃ x₄).isSome then skipLiteral s else .error .invalidEscape
      | 'u' :: s => .error (shortEscape s)
      | e :: s => if (unescape? e).isSome then skipLiteral s else .error .invalidEscape
    else if isControl c then .error .controlCharacter
    else skipLiteral s

end Json

end PromptWeave
