import Mathlib.Data.List.Induction
import Mathlib.Data.List.TakeWhile
import PromptWeave.Proofs.Json.Literal
import PromptWeave.Proofs.Json.Reading

/-! Readers and the texts that they accept.

A language says which texts stand for which values. The reader of a shape may take nothing but texts
of a language, behind space (`Shape.KeepsTo`), and it may take all of them (`Shape.Covers`). Strings
are read just where there is a literal, and natural numbers just where there are their digits. -/

namespace PromptWeave

namespace Json

/-! ## Space -/

theorem spaces_iff {s : Text} : Spaces s ↔ ∀ c ∈ s, isSpace c := by
  have hc (c : Char) : c ∈ [' ', '\t', '\n', '\r'] ↔ isSpace c := by
    simp [isSpace, or_assoc]
  exact forall₂_congr fun c _ => hc c

theorem exists_skipSpace (s : Text) : ∃ space, Spaces space ∧ s = space ++ skipSpace s :=
  ⟨s.takeWhile isSpace, spaces_iff.2 fun _ => List.mem_takeWhile_imp,
    List.takeWhile_append_dropWhile.symm⟩

theorem spaces_of_skipSpace_eq_nil {s : Text} (h : skipSpace s = []) : Spaces s := by
  obtain ⟨space, hs, he⟩ := exists_skipSpace s
  rwa [he, h, List.append_nil]

theorem skipSpace_eq_nil_of_spaces {s : Text} (h : Spaces s) : skipSpace s = [] :=
  List.dropWhile_eq_nil_iff.2 (spaces_iff.1 h)

theorem skipSpace_spaces {a : Text} (ha : Spaces a) {c : Char} (hc : isSpace c = false) (s : Text) :
    skipSpace (a ++ c :: s) = c :: s :=
  skipSpace_append_cons (spaces_iff.1 ha) hc s

/-! ## Languages -/

/-- What the reader of a shape takes is space and a text that stands for the value it gives. -/
def Shape.KeepsTo {α : Type} (shape : Shape α) (L : Text → α → Prop) : Prop :=
  ∀ ⦃depth : Nat⦄ ⦃s rest : Text⦄ ⦃a : α⦄, shape.read depth s = .ok (a, rest) →
    ∃ space text, Spaces space ∧ L text a ∧ s = space ++ (text ++ rest)

/-- The reader of a shape takes any text of the language behind any space, if what follows does not
go on with the text. -/
def Shape.Covers {α : Type} (shape : Shape α) (depth : Nat) (L : Text → α → Prop) : Prop :=
  ∀ ⦃space text rest : Text⦄ ⦃a : α⦄, Spaces space → L text a → Stops rest →
    shape.read depth (space ++ (text ++ rest)) = .ok (a, rest)

/-- A whole text is read if nothing but space is left behind the value. -/
theorem Shape.parse_eq_ok_iff {α : Type} {shape : Shape α} {s : Text} {a : α} :
    shape.parse s = .ok a ↔
      ∃ rest, shape.read greatestDepth s = .ok (a, rest) ∧ skipSpace rest = [] := by
  constructor
  · intro h
    obtain ⟨⟨b, rest⟩, hr, h⟩ := exists_of_bind_eq_ok h
    dsimp only at h
    split at h
    · cases h
      exact ⟨rest, hr, ‹_›⟩
    · cases h
  · rintro ⟨rest, hr, he⟩
    simp [parse, parseWith, hr, he, bind, Except.bind, pure, Except.pure]

theorem Shape.text_keepsTo : text.KeepsTo IsLiteral := by
  intro depth s rest t h
  obtain ⟨space, hs, he⟩ := exists_skipSpace s
  simp only [text, readText] at h
  split at h
  · cases h
  rename_i c s' hc
  split at h
  · rename_i hq
    subst hq
    obtain ⟨body, hb, rfl⟩ := readLiteral_eq_ok_iff.1 h
    refine ⟨space, _, hs, ⟨body, hb, rfl⟩, he.trans ?_⟩
    simp [hc]
  · cases h

theorem Shape.text_covers (depth : Nat) : text.Covers depth IsLiteral := by
  rintro space _ rest t hs ⟨body, hb, rfl⟩ -
  have hw : '"' :: (body ++ ['"']) ++ rest = '"' :: (body ++ '"' :: rest) := by simp
  simp only [text, readText]
  rw [hw, skipSpace_append_cons (spaces_iff.1 hs) (by decide)]
  simpa using readLiteral_eq_ok_iff.2 ⟨body, hb, rfl⟩

/-! ## Natural numbers -/

theorem digitChar_of_isDigit {c : Char} (h : c.isDigit) : Nat.digitChar (c.toNat - 48) = c := by
  have hd : ∀ d : Fin 10, Nat.digitChar d.val = Char.ofNat (d.val + 48) := by decide
  have hc : 48 ≤ c.toNat ∧ c.toNat ≤ 57 := Char.isDigit_iff_toNat.1 h
  rw [hd ⟨c.toNat - 48, by omega⟩, Nat.sub_add_cancel hc.1, Char.ofNat_toNat]

/-- Digits without a superfluous zero in front are those of their number. -/
theorem toDigits_valueOf {s : Text} (hd : ∀ c ∈ s, c.isDigit) (hs : s ≠ [])
    (hz : ∀ c t, s ≠ '0' :: c :: t) :
    Nat.toDigits 10 (Text.valueOf 10 (s.filterMap Text.digit?)) = s := by
  induction s using List.reverseRecOn with
  | nil => exact absurd rfl hs
  | append_singleton s c ih =>
    have hc : c.isDigit := hd c (by simp)
    have hlt : c.toNat - 48 < 10 := by
      have : 48 ≤ c.toNat ∧ c.toNat ≤ 57 := Char.isDigit_iff_toNat.1 hc
      omega
    have hv : Text.valueOf 10 ((s ++ [c]).filterMap Text.digit?) =
        Text.valueOf 10 (s.filterMap Text.digit?) * 10 + (c.toNat - 48) := by
      simp [Text.valueOf, Text.digit?, hc]
    rw [hv]
    by_cases hs : s = []
    · subst hs
      rw [List.filterMap_nil, Text.valueOf, List.foldl_nil, Nat.zero_mul, Nat.zero_add,
        Nat.toDigits_of_lt_base hlt, digitChar_of_isDigit hc]
      rfl
    · have hi := ih (fun c h => hd c (by simp [h])) hs fun d t h => hz d (t ++ [c]) (by simp [h])
      -- The number in front is not zero, since its only digit would be a superfluous zero.
      have hp : Text.valueOf 10 (s.filterMap Text.digit?) ≠ 0 := by
        intro h
        rw [h] at hi
        exact hz c [] (by rw [← hi]; rfl)
      rw [Nat.toDigits_of_base_le (by omega) (by omega), Nat.mul_add_mod_self_right,
        Nat.mod_eq_of_lt hlt, digitChar_of_isDigit hc, Nat.mul_comm, Nat.mul_add_div (by decide),
        Nat.div_eq_of_lt hlt, Nat.add_zero, hi]

theorem eq_of_readDigits {s rest : Text} {digits : List Nat}
    (h : readDigits s = .ok (digits, rest)) :
    digits ≠ [] ∧ digits = (s.takeWhile Char.isDigit).filterMap Text.digit? ∧
      s = s.takeWhile Char.isDigit ++ rest := by
  by_cases hd : (takeDigits s).1 = []
  · simp [readDigits, hd] at h
  · simp only [readDigits, hd, if_false, Except.ok.injEq, Prod.mk.injEq] at h
    obtain ⟨rfl, rfl⟩ := h
    exact ⟨hd, rfl, List.takeWhile_append_dropWhile.symm⟩

theorem eq_of_readWhole {s rest : Text} {whole : List Nat} (h : readWhole s = .ok (whole, rest)) :
    s = Nat.toDigits 10 (Text.valueOf 10 whole) ++ rest := by
  unfold readWhole at h
  split at h
  · cases h
  rename_i hz
  obtain ⟨hn, hw, hs⟩ := eq_of_readDigits h
  have hd : ∀ c ∈ s.takeWhile Char.isDigit, c.isDigit := fun _ => List.mem_takeWhile_imp
  rw [hw, toDigits_valueOf hd]
  · exact hs
  · intro he
    rw [hw, he] at hn
    exact hn rfl
  · intro c t he
    have hc : c.isDigit := hd c (by simp [he])
    rw [he] at hw
    simp only [List.filterMap_cons, Text.digit?, hc, if_true] at hw
    exact hz _ _ _ (h.trans (congrArg (fun w => Except.ok (w, rest)) hw))

theorem eq_of_readFraction_nil {s rest : Text} (h : readFraction s = .ok ([], rest)) :
    s = rest := by
  unfold readFraction at h
  split at h
  · exact absurd rfl (eq_of_readDigits h).1
  · cases h
    rfl

theorem eq_of_readExponent_none {s rest : Text} (h : readExponent s = .ok (none, rest)) :
    s = rest := by
  have hp {negative : Bool} {s : Text} (h : readPower negative s = .ok (none, rest)) : False := by
    obtain ⟨_, -, he⟩ := exists_of_bind_eq_ok h
    cases he
  unfold readExponent at h
  split at h
  · split at h
    · split at h <;> exact (hp h).elim
    · cases h
      rfl
  · cases h
    rfl

/-- A literal that gives a natural number is without a sign, a fraction and an exponent. -/
theorem NumberLiteral.eq_of_integer? {l : NumberLiteral} {n : Nat} (h : l.integer? = some ↑n) :
    l.integral = true ∧ l.negative = false ∧ Text.valueOf 10 l.whole = n := by
  simp only [integer?] at h
  split at h
  · cases h
  split at h
  · split at h
    · rename_i hn
      have := Option.some.inj h
      omega
    · cases h
  split at h
  · exact ⟨by simp_all, by simp_all, Int.ofNat.inj (Option.some.inj h)⟩
  · cases h

theorem eq_of_readUnsigned {negative : Bool} {s rest : Text} {l : NumberLiteral}
    (h : readUnsigned negative s = .ok (l, rest)) (hi : l.integral = true) :
    l.negative = negative ∧ s = Nat.toDigits 10 (Text.valueOf 10 l.whole) ++ rest := by
  obtain ⟨⟨whole, s₁⟩, hw, h⟩ := exists_of_bind_eq_ok h
  obtain ⟨⟨fraction, s₂⟩, hf, h⟩ := exists_of_bind_eq_ok h
  obtain ⟨⟨exponent, s₃⟩, he, h⟩ := exists_of_bind_eq_ok h
  cases h
  obtain ⟨rfl, rfl⟩ : fraction = [] ∧ exponent = none := of_decide_eq_true hi
  refine ⟨rfl, (eq_of_readWhole hw).trans ?_⟩
  rw [eq_of_readFraction_nil hf, eq_of_readExponent_none he]

/-- What is read as a natural number are its decimal digits. -/
theorem eq_of_readNumber {s rest : Text} {n : Nat}
    (h : readNumber s = .ok (.integer n, rest)) : s = Nat.toDigits 10 n ++ rest := by
  obtain ⟨⟨l, s'⟩, hl, hn⟩ := exists_of_bind_eq_ok h
  dsimp only at hn
  split at hn
  · rename_i m hm
    cases hn
    have hi : l.integer? = some ↑n := by
      unfold NumberLiteral.number? at hm
      split at hm
      · cases hm
        assumption
      · obtain ⟨x, -, hx⟩ := Option.map_eq_some_iff.1 hm
        cases hx
    obtain ⟨hi', hneg, rfl⟩ := NumberLiteral.eq_of_integer? hi
    unfold readNumberLiteral at hl
    split at hl
    · have := (eq_of_readUnsigned hl hi').1
      rw [hneg] at this
      cases this
    · exact (eq_of_readUnsigned hl hi').2
  · cases hn

theorem Shape.natural_keepsTo (name : Text) (high : Nat) :
    (natural name high).KeepsTo (IsNatural high) := by
  intro depth s rest n h
  obtain ⟨⟨m, s₁⟩, hm, he⟩ := exists_of_map_eq_ok h
  cases he
  obtain ⟨space, hs, he⟩ := exists_skipSpace s
  unfold readInteger at hm
  split at hm
  · cases hm
  rename_i c s' hc
  split at hm
  · obtain ⟨⟨x, s₂⟩, hx, hm⟩ := exists_of_bind_eq_ok hm
    split at hm
    · cases hm
    rename_i k s₃ hk
    cases hk
    split at hm
    · rename_i hb
      cases hm
      obtain ⟨k, rfl⟩ := Int.eq_ofNat_of_zero_le hb.1
      refine ⟨space, _, hs, ⟨by simpa using hb.2, rfl⟩, he.trans ?_⟩
      rw [hc, eq_of_readNumber hx]
      rfl
    · cases hm
  · cases hm

theorem Shape.natural_covers {name : Text} {high : Nat} (hh : high ≤ greatestWord) (depth : Nat) :
    (natural name high).Covers depth (IsNatural high) := by
  rintro space _ rest n hs ⟨hn, rfl⟩ hr
  have hread := readNumber_ofNat (Nat.le_trans hn hh) hr
  obtain ⟨c, t, ht, hc⟩ := exists_ofNat_eq_cons n
  change (natural name high).read depth (space ++ (Text.ofNat n ++ rest)) = .ok (n, rest)
  rw [ht, List.cons_append] at hread ⊢
  simp only [natural, readInteger]
  rw [skipSpace_append_cons (spaces_iff.1 hs) (not_isSpace_of_isDigit hc)]
  simp [hc, hread, hn, bind, Except.bind, pure, Except.pure, Except.map]

end Json

end PromptWeave
