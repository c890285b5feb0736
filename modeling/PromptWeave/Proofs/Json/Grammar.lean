import PromptWeave.Text.Basic

/-! The grammar of JSON objects.

The texts that stand for strings, and the texts of objects, are described here apart from any
reader. An object text is described by its members, each a key and the text of its value, so that
what values are allowed is left to those who use the grammar. -/

namespace PromptWeave

namespace Json

/-- A text of the characters that may stand between tokens. -/
def Spaces (s : Text) : Prop :=
  s ⊆ [' ', '\t', '\n', '\r']

/-! ## Strings -/

/-- The letters that may follow a backslash, with the characters they stand for. -/
def escapes : List (Char × Char) :=
  [('"', '"'), ('\\', '\\'), ('/', '/'), ('b', '\x08'), ('f', '\x0c'), ('n', '\n'), ('r', '\r'),
    ('t', '\t')]

/-- A hexadecimal digit, in either case, and its value. -/
def HexDigit (c : Char) (v : Nat) : Prop :=
  "0123456789abcdef".toList[v]? = some c ∨ "0123456789ABCDEF".toList[v]? = some c

/-- Four hexadecimal digits and the number they write. -/
inductive HexQuad : Text → Nat → Prop
  | mk {a b c d : Char} {v w x y : Nat} : HexDigit a v → HexDigit b w → HexDigit c x →
      HexDigit d y → HexQuad [a, b, c, d] (((v * 16 + w) * 16 + x) * 16 + y)

/-- The characters between two quotes, and the text they stand for. No character has the number of
a surrogate, so that an escape of one stands for something only as half of a pair. -/
inductive Denotes : Text → Text → Prop
  | nil : Denotes [] []
  | bare {c : Char} {s t : Text} : c ≠ '"' → c ≠ '\\' → 0x20 ≤ c.toNat → Denotes s t →
      Denotes (c :: s) (c :: t)
  | lettered {e c : Char} {s t : Text} : (e, c) ∈ escapes → Denotes s t →
      Denotes ('\\' :: e :: s) (c :: t)
  | numbered {q s t : Text} {c : Char} : HexQuad q c.toNat → Denotes s t →
      Denotes ('\\' :: 'u' :: (q ++ s)) (c :: t)
  | paired {q q' s t : Text} {n m : Nat} {c : Char} : HexQuad q n → HexQuad q' m →
      0xD800 ≤ n → n < 0xDC00 → 0xDC00 ≤ m → m < 0xE000 →
      c.toNat = 0x10000 + (n - 0xD800) * 0x400 + (m - 0xDC00) → Denotes s t →
      Denotes ('\\' :: 'u' :: (q ++ '\\' :: 'u' :: (q' ++ s))) (c :: t)

/-- A string literal and the text it stands for. -/
def IsLiteral (s t : Text) : Prop :=
  ∃ body, Denotes body t ∧ s = '"' :: (body ++ ['"'])

/-! ## Numbers -/

/-- The decimal digits of a natural number up to `high`, without sign and without zeros in front. -/
def IsNatural (high : Nat) (s : Text) (n : Nat) : Prop :=
  n ≤ high ∧ s = Nat.toDigits 10 n

/-! ## Objects -/

/-- The text of a member with the given key and text of its value, and with the space around it. -/
inductive IsMember : Text × Text → Text → Prop
  | mk {a b c d literal key value : Text} : Spaces a → IsLiteral literal key → Spaces b →
      Spaces c →
      Spaces d → IsMember (key, value) (a ++ (literal ++ (b ++ ':' :: (c ++ (value ++ d)))))

/-- The texts of further members, each after a comma. -/
inductive MoreMembers : List (Text × Text) → Text → Prop
  | nil : MoreMembers [] []
  | cons {m : Text × Text} {ms : List (Text × Text)} {s t : Text} : IsMember m s →
      MoreMembers ms t → MoreMembers (m :: ms) (',' :: (s ++ t))

/-- What stands between the brackets of an object with the given members. -/
inductive IsInside : List (Text × Text) → Text → Prop
  | empty {s : Text} : Spaces s → IsInside [] s
  | members {m : Text × Text} {ms : List (Text × Text)} {s t : Text} : IsMember m s →
      MoreMembers ms t → IsInside (m :: ms) (s ++ t)

/-- The text of an object with the given members, in order. -/
def IsObject (ms : List (Text × Text)) (s : Text) : Prop :=
  ∃ t, IsInside ms t ∧ s = '{' :: (t ++ ['}'])

/-! ## Digits -/

theorem HexDigit.lt {c : Char} {v : Nat} (h : HexDigit c v) : v < 16 :=
  h.elim (fun h => (List.getElem?_eq_some_iff.1 h).1) fun h => (List.getElem?_eq_some_iff.1 h).1

/-- A digit is found from its place in the run of the digits or of the letters. -/
theorem hexDigit_iff {c : Char} {v : Nat} :
    HexDigit c v ↔ v < 16 ∧ (c = Char.ofNat (v + if v < 10 then 48 else 87) ∨
      c = Char.ofNat (v + if v < 10 then 48 else 55)) := by
  have lower : ∀ d : Fin 16, "0123456789abcdef".toList[d.val]? =
      some (Char.ofNat (d.val + if d.val < 10 then 48 else 87)) := by decide
  have upper : ∀ d : Fin 16, "0123456789ABCDEF".toList[d.val]? =
      some (Char.ofNat (d.val + if d.val < 10 then 48 else 55)) := by decide
  constructor
  · refine fun h => ⟨h.lt, h.imp (fun hc => ?_) fun hc => ?_⟩
    · exact Option.some.inj (hc.symm.trans (lower ⟨v, h.lt⟩))
    · exact Option.some.inj (hc.symm.trans (upper ⟨v, h.lt⟩))
  · rintro ⟨hv, rfl | rfl⟩
    · exact .inl (lower ⟨v, hv⟩)
    · exact .inr (upper ⟨v, hv⟩)

/-! ## Lengths -/

theorem Denotes.length_le {s t : Text} (h : Denotes s t) : t.length ≤ s.length := by
  induction h with
  | nil => exact Nat.le_refl _
  | bare _ _ _ _ ih | lettered _ _ ih | numbered _ _ ih | paired _ _ _ _ _ _ _ _ ih =>
    simp only [List.length_cons, List.length_append]
    omega

/-- A text is shorter than its literal. -/
theorem IsLiteral.length_lt {s t : Text} (h : IsLiteral s t) : t.length < s.length := by
  obtain ⟨body, hb, rfl⟩ := h
  have := hb.length_le
  simp only [List.length_cons, List.length_append]
  omega

theorem IsMember.length_lt {m : Text × Text} {s : Text} (h : IsMember m s) :
    m.2.length < s.length := by
  cases h
  simp only [List.length_append, List.length_cons]
  omega

theorem MoreMembers.length_lt {ms : List (Text × Text)} {t : Text} (h : MoreMembers ms t)
    {m : Text × Text} (hm : m ∈ ms) : m.2.length < t.length := by
  induction h with
  | nil => cases hm
  | cons hs _ ih =>
    rw [List.length_cons, List.length_append]
    rcases List.mem_cons.1 hm with rfl | hm
    · have := hs.length_lt
      omega
    · have := ih hm
      omega

/-- The text of a member's value is shorter than the object. -/
theorem IsObject.length_lt {ms : List (Text × Text)} {s : Text} (h : IsObject ms s)
    {m : Text × Text} (hm : m ∈ ms) : m.2.length < s.length := by
  obtain ⟨t, ht, rfl⟩ := h
  rw [List.length_cons, List.length_append]
  cases ht with
  | empty _ => cases hm
  | members hs ht =>
    rw [List.length_append]
    rcases List.mem_cons.1 hm with rfl | hm
    · have := hs.length_lt
      omega
    · have := ht.length_lt hm
      omega

/-! ## Control characters -/

/-- The only control characters of a text are those that may stand between tokens. -/
def Uncontrolled (s : Text) : Prop :=
  ∀ c ∈ s, c.toNat < 0x20 → c ∈ [' ', '\t', '\n', '\r']

theorem uncontrolled_append {s t : Text} :
    Uncontrolled (s ++ t) ↔ Uncontrolled s ∧ Uncontrolled t :=
  List.forall_mem_append

theorem uncontrolled_cons {c : Char} (hc : 0x20 ≤ c.toNat) {s : Text} :
    Uncontrolled (c :: s) ↔ Uncontrolled s := by
  simp [Uncontrolled, Nat.not_lt.2 hc]

theorem uncontrolled_nil : Uncontrolled [] := nofun

theorem Spaces.uncontrolled {s : Text} (h : Spaces s) : Uncontrolled s :=
  fun _ hc _ => h hc

theorem HexDigit.le_toNat {c : Char} {v : Nat} (h : HexDigit c v) : 0x20 ≤ c.toNat := by
  have lower : ∀ d : Fin 16,
      0x20 ≤ (Char.ofNat (d.val + if d.val < 10 then 48 else 87)).toNat := by
    decide
  have upper : ∀ d : Fin 16,
      0x20 ≤ (Char.ofNat (d.val + if d.val < 10 then 48 else 55)).toNat := by
    decide
  obtain ⟨hv, rfl | rfl⟩ := hexDigit_iff.1 h
  · exact lower ⟨v, hv⟩
  · exact upper ⟨v, hv⟩

theorem HexQuad.uncontrolled {q : Text} {n : Nat} (h : HexQuad q n) : Uncontrolled q := by
  obtain ⟨ha, hb, hc, hd⟩ := h
  rw [uncontrolled_cons ha.le_toNat, uncontrolled_cons hb.le_toNat, uncontrolled_cons hc.le_toNat,
    uncontrolled_cons hd.le_toNat]
  exact uncontrolled_nil

theorem Denotes.uncontrolled {s t : Text} (h : Denotes s t) : Uncontrolled s := by
  have hb : 0x20 ≤ '\\'.toNat := by decide
  have hu : 0x20 ≤ 'u'.toNat := by decide
  induction h with
  | nil => exact uncontrolled_nil
  | bare _ _ hc _ ih => exact (uncontrolled_cons hc).2 ih
  | @lettered e c s t he _ ih =>
    have hl : ∀ p ∈ escapes, 0x20 ≤ p.1.toNat := by decide
    exact (uncontrolled_cons hb).2 ((uncontrolled_cons (hl _ he)).2 ih)
  | numbered hq _ ih =>
    rw [uncontrolled_cons hb, uncontrolled_cons hu, uncontrolled_append]
    exact ⟨hq.uncontrolled, ih⟩
  | paired hq hq' _ _ _ _ _ _ ih =>
    rw [uncontrolled_cons hb, uncontrolled_cons hu, uncontrolled_append, uncontrolled_cons hb,
      uncontrolled_cons hu, uncontrolled_append]
    exact ⟨hq.uncontrolled, hq'.uncontrolled, ih⟩

theorem IsLiteral.uncontrolled {s t : Text} (h : IsLiteral s t) : Uncontrolled s := by
  obtain ⟨body, hb, rfl⟩ := h
  have hq : 0x20 ≤ '"'.toNat := by decide
  rw [uncontrolled_cons hq, uncontrolled_append, uncontrolled_cons hq]
  exact ⟨hb.uncontrolled, uncontrolled_nil⟩

theorem IsNatural.uncontrolled {high n : Nat} {s : Text} (h : IsNatural high s n) :
    Uncontrolled s := by
  rintro c hc hlt
  rw [h.2] at hc
  have hd : 48 ≤ c.toNat ∧ c.toNat ≤ 57 :=
    Char.isDigit_iff_toNat.1 (Nat.isDigit_of_mem_toDigits (by decide) (by decide) hc)
  omega

theorem IsMember.uncontrolled {m : Text × Text} {s : Text} (h : IsMember m s)
    (hm : Uncontrolled m.2) : Uncontrolled s := by
  obtain ⟨ha, hl, hb, hc, hd⟩ := h
  simp only [uncontrolled_append]
  rw [uncontrolled_cons (by decide)]
  simp only [uncontrolled_append]
  exact ⟨ha.uncontrolled, hl.uncontrolled, hb.uncontrolled, hc.uncontrolled,
    hm, hd.uncontrolled⟩

theorem MoreMembers.uncontrolled {ms : List (Text × Text)} {t : Text} (h : MoreMembers ms t)
    (hm : ∀ m ∈ ms, Uncontrolled m.2) : Uncontrolled t := by
  induction h with
  | nil => exact uncontrolled_nil
  | cons hs _ ih =>
    rw [List.forall_mem_cons] at hm
    rw [uncontrolled_cons (by decide), uncontrolled_append]
    exact ⟨hs.uncontrolled hm.1, ih hm.2⟩

/-- Where the values of the members hold no control characters, the object holds none but space. -/
theorem IsObject.uncontrolled {ms : List (Text × Text)} {s : Text} (h : IsObject ms s)
    (hm : ∀ m ∈ ms, Uncontrolled m.2) : Uncontrolled s := by
  obtain ⟨t, ht, rfl⟩ := h
  have hi : Uncontrolled t := by
    cases ht with
    | empty hs => exact hs.uncontrolled
    | members hs ht =>
      rw [List.forall_mem_cons] at hm
      exact uncontrolled_append.2 ⟨hs.uncontrolled hm.1, ht.uncontrolled hm.2⟩
  rw [uncontrolled_cons (by decide), uncontrolled_append, uncontrolled_cons (by decide)]
  exact ⟨hi, uncontrolled_nil⟩

end Json

end PromptWeave
