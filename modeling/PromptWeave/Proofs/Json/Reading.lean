import PromptWeave.Json.Record

/-! Readers read back what was written.

A written value is followed by something that ends it, and preceded by nothing but space.
`Shape.ReadsBack` says of a shape and a value that the reader of the shape then finds the value and
stops right behind it. Here are the leaves, texts and natural numbers; records follow in a module of
their own. -/

namespace PromptWeave

namespace Json

/-! ## Space -/

/-- A layout puts nothing but space between tokens. -/
structure Layout.Blank (layout : Layout) : Prop where
  newline : ∀ depth, ∀ c ∈ layout.newline depth, isSpace c
  gap : ∀ c ∈ layout.gap, isSpace c

theorem Layout.blank_compact : Layout.compact.Blank :=
  ⟨fun _ _ h => absurd h List.not_mem_nil, fun _ h => absurd h List.not_mem_nil⟩

theorem Layout.blank_pretty : Layout.pretty.Blank where
  newline depth c hc := by
    rcases List.mem_cons.1 hc with rfl | hc
    · rfl
    · rw [List.eq_of_mem_replicate hc]
      rfl
  gap c hc := by
    rw [List.mem_singleton.1 hc]
    rfl

theorem skipSpace_append {space : Text} (h : ∀ c ∈ space, isSpace c) (s : Text) :
    skipSpace (space ++ s) = skipSpace s :=
  List.dropWhile_append_of_pos h

theorem skipSpace_cons {c : Char} (h : isSpace c = false) (s : Text) :
    skipSpace (c :: s) = c :: s :=
  List.dropWhile_cons_of_neg (by simp [h])

theorem skipSpace_append_cons {space : Text} (h : ∀ c ∈ space, isSpace c) {c : Char}
    (hc : isSpace c = false) (s : Text) : skipSpace (space ++ c :: s) = c :: s := by
  rw [skipSpace_append h, skipSpace_cons hc]

/-! ## What may follow a value -/

/-- A text does not go on with a character that could belong to a number before it. -/
def Stops (s : Text) : Prop :=
  ∀ c ∈ s.head?, c.isDigit = false ∧ c ≠ '.' ∧ c ≠ 'e' ∧ c ≠ 'E'

theorem stops_cons {c : Char} (h : c.isDigit = false ∧ c ≠ '.' ∧ c ≠ 'e' ∧ c ≠ 'E')
    (s : Text) : Stops (c :: s) := by
  rintro _ ⟨⟩
  exact h

/-- Space ends a number, whatever comes after it. -/
theorem stops_append {space : Text} (h : ∀ c ∈ space, isSpace c) {s : Text} (hs : Stops s) :
    Stops (space ++ s) := by
  cases space with
  | nil => exact hs
  | cons c space =>
    have hc := h c List.mem_cons_self
    simp only [isSpace, Bool.or_eq_true, beq_iff_eq] at hc
    rcases hc with ((rfl | rfl) | rfl) | rfl <;> exact stops_cons (by decide) _

/-! ## Natural numbers -/

/-- The digits of a number in order, without zeros at their start. -/
def digitsOf (n : Nat) : List Nat :=
  (Text.ofNat n).filterMap Text.digit?

theorem digit?_digitChar {d : Nat} (h : d < 10) : Text.digit? d.digitChar = some d :=
  (by decide : ∀ d : Fin 10, Text.digit? d.val.digitChar = some d.val) ⟨d, h⟩

theorem digitsOf_of_lt {n : Nat} (h : n < 10) : digitsOf n = [n] := by
  simp [digitsOf, Text.ofNat, Nat.toDigits_of_lt_base h, digit?_digitChar h]

theorem digitsOf_of_le {n : Nat} (h : 10 ≤ n) : digitsOf n = digitsOf (n / 10) ++ [n % 10] := by
  have hm : n % 10 < 10 := Nat.mod_lt n (by omega)
  simp [digitsOf, Text.ofNat, Nat.toDigits_of_base_le (by omega) h, digit?_digitChar hm]

theorem valueOf_digitsOf (n : Nat) : Text.valueOf 10 (digitsOf n) = n := by
  induction n using Nat.strongRecOn with
  | ind n ih =>
    rcases Nat.lt_or_ge n 10 with h | h
    · simp [digitsOf_of_lt h, Text.valueOf]
    · have hn := ih (n / 10) (by omega)
      rw [Text.valueOf] at hn
      rw [digitsOf_of_le h, Text.valueOf, List.foldl_append, hn]
      simp only [List.foldl_cons, List.foldl_nil]
      omega

theorem digitsOf_ne_nil (n : Nat) : digitsOf n ≠ [] := by
  rcases Nat.lt_or_ge n 10 with h | h
  · simp [digitsOf_of_lt h]
  · simp [digitsOf_of_le h]

/-- A number of more than one digit does not begin with a zero. -/
theorem digitsOf_ne_zero_cons (n d : Nat) (ds : List Nat) : digitsOf n ≠ 0 :: d :: ds := by
  induction n using Nat.strongRecOn generalizing d ds with
  | ind n ih =>
    rcases Nat.lt_or_ge n 10 with h | h
    · simp [digitsOf_of_lt h]
    · rw [digitsOf_of_le h]
      intro he
      cases hd : digitsOf (n / 10) with
      | nil => exact digitsOf_ne_nil _ hd
      | cons e es =>
        rw [hd] at he
        obtain ⟨rfl, he⟩ := List.cons.inj he
        cases es with
        | nil =>
          have := valueOf_digitsOf (n / 10)
          simp [hd, Text.valueOf] at this
          omega
        | cons e' es => exact ih (n / 10) (by omega) _ _ hd

theorem isDigit_of_mem_ofNat {n : Nat} {c : Char} (h : c ∈ Text.ofNat n) : c.isDigit :=
  Nat.isDigit_of_mem_toDigits (by omega) (by omega) h

theorem exists_ofNat_eq_cons (n : Nat) : ∃ c t, Text.ofNat n = c :: t ∧ c.isDigit := by
  obtain ⟨c, t, h⟩ := List.exists_cons_of_ne_nil (Nat.toDigits_ne_nil (n := n) (b := 10))
  exact ⟨c, t, h, isDigit_of_mem_ofNat (n := n)
    (by rw [Text.ofNat, h]; exact List.mem_cons_self)⟩

theorem takeDigits_ofNat (n : Nat) {s : Text} (h : Stops s) :
    takeDigits (Text.ofNat n ++ s) = (digitsOf n, s) := by
  have hd : ∀ c ∈ Text.ofNat n, c.isDigit := fun _ => isDigit_of_mem_ofNat
  have hs : s.takeWhile Char.isDigit = [] ∧ s.dropWhile Char.isDigit = s := by
    cases s with
    | nil => exact ⟨rfl, rfl⟩
    | cons c s => simp [(h c rfl).1]
  rw [takeDigits, List.takeWhile_append_of_pos hd, List.dropWhile_append_of_pos hd, hs.1, hs.2,
    List.append_nil, digitsOf]

theorem readWhole_ofNat (n : Nat) {s : Text} (h : Stops s) :
    readWhole (Text.ofNat n ++ s) = .ok (digitsOf n, s) := by
  have hr : readDigits (Text.ofNat n ++ s) = .ok (digitsOf n, s) := by
    simp [readDigits, takeDigits_ofNat n h, digitsOf_ne_nil]
  rw [readWhole, hr]
  split
  · rename_i he
    simp only [Except.ok.injEq, Prod.mk.injEq] at he
    exact absurd he.1 (digitsOf_ne_zero_cons n _ _)
  · rfl

theorem readFraction_of_stops {s : Text} (h : Stops s) : readFraction s = .ok ([], s) := by
  unfold readFraction
  split
  · exact absurd rfl (h _ rfl).2.1
  · rfl

theorem readExponent_of_stops {s : Text} (h : Stops s) : readExponent s = .ok (none, s) := by
  unfold readExponent
  split
  · rw [if_neg]
    simp [(h _ rfl).2.2]
  · rfl

theorem readUnsigned_ofNat (negative : Bool) (n : Nat) {s : Text} (h : Stops s) :
    readUnsigned negative (Text.ofNat n ++ s) =
      .ok (⟨negative, digitsOf n, [], 0, true⟩, s) := by
  rw [readUnsigned, readWhole_ofNat n h]
  simp [bind, Except.bind, readFraction_of_stops h, readExponent_of_stops h]
  rfl

/-- The digits of a number of 64 bits are read as that number. -/
theorem readNumber_ofNat {n : Nat} (hn : n ≤ greatestWord) {s : Text} (h : Stops s) :
    readNumber (Text.ofNat n ++ s) = .ok (.integer n, s) := by
  have hl : readNumberLiteral (Text.ofNat n ++ s) =
      .ok (⟨false, digitsOf n, [], 0, true⟩, s) := by
    obtain ⟨c, t, ht, hc⟩ := exists_ofNat_eq_cons n
    have hu : readNumberLiteral (Text.ofNat n ++ s) = readUnsigned false (Text.ofNat n ++ s) := by
      rw [ht, List.cons_append, readNumberLiteral]
      rintro s ⟨⟩
      simp at hc
    rw [hu, readUnsigned_ofNat false n h]
  rw [readNumber, hl]
  simp [bind, Except.bind, NumberLiteral.number?, NumberLiteral.integer?, valueOf_digitsOf, hn]
  rfl

/-- An integer of 64 bits is read as it is written, with or without a sign. -/
theorem readNumber_ofInt {n : Int} (hl : leastSigned ≤ n) (hh : n ≤ greatestWord) {s : Text}
    (h : Stops s) : readNumber (Text.ofInt n ++ s) = .ok (.integer n, s) := by
  cases n with
  | ofNat n => exact readNumber_ofNat (Int.ofNat_le.1 hh) h
  | negSucc n =>
    have hr : readNumberLiteral (Text.ofInt (.negSucc n) ++ s) =
        .ok (⟨true, digitsOf (n + 1), [], 0, true⟩, s) := readUnsigned_ofNat true (n + 1) h
    have hn : leastSigned ≤ -(↑(n + 1) : Int) := hl
    rw [readNumber, hr]
    simp only [bind, Except.bind, NumberLiteral.number?, NumberLiteral.integer?, valueOf_digitsOf,
      Bool.not_true, Bool.false_eq_true, if_false, if_true, Nat.succ_pos, hn, and_self]
    rfl

/-! ## Shapes -/

/-- The reader of a shape, with at least `need` brackets to open, finds a written value behind
space and stops right behind it. -/
def Shape.ReadsBack (shape : Shape α) (need : Nat) (a : α) : Prop :=
  ∀ (layout : Layout), layout.Blank → ∀ (depth outer : Nat) (space rest : Text),
    need ≤ depth → (∀ c ∈ space, isSpace c) → Stops rest →
      shape.read depth (space ++ (Json.write layout outer (shape.write a) ++ rest)) = .ok (a, rest)

theorem not_isSpace_of_isDigit {c : Char} (h : c.isDigit) : isSpace c = false := by
  cases hc : isSpace c with
  | false => rfl
  | true =>
    simp only [isSpace, Bool.or_eq_true, beq_iff_eq] at hc
    rcases hc with ((rfl | rfl) | rfl) | rfl <;> simp at h

end Json

end PromptWeave
