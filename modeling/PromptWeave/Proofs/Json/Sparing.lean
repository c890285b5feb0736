import PromptWeave.Proofs.Json.Literal

/-! Literals without needless escapes.

A text has many literals. In one of them only what has to be escaped is, and by a letter where there
is one (`IsSparing`). It is the literal that is written (`isSparing_iff`), and none of the others is
shorter (`IsSparing.length_le`). -/

namespace PromptWeave

namespace Json

/-- The characters between the quotes of a sparing literal. A quote, a backslash or a control
character is escaped by its letter, or by its number in four digits in lower case if it has none;
any other character stands for itself. -/
inductive DenotesSparingly : Text → Text → Prop
  | nil : DenotesSparingly [] []
  | bare {c : Char} {s t : Text} : c ≠ '"' → c ≠ '\\' → 0x20 ≤ c.toNat →
      DenotesSparingly s t → DenotesSparingly (c :: s) (c :: t)
  | lettered {e c : Char} {s t : Text} : (e, c) ∈ escapes → c ≠ '/' →
      DenotesSparingly s t → DenotesSparingly ('\\' :: e :: s) (c :: t)
  | numbered {a b c : Char} {s t : Text} : c.toNat < 0x20 → (∀ e, (e, c) ∉ escapes) →
      "0123456789abcdef".toList[c.toNat / 16]? = some a →
      "0123456789abcdef".toList[c.toNat % 16]? = some b → DenotesSparingly s t →
      DenotesSparingly ('\\' :: 'u' :: '0' :: '0' :: a :: b :: s) (c :: t)

/-- The literal of a text without needless escapes. -/
def IsSparing (s t : Text) : Prop :=
  ∃ body, DenotesSparingly body t ∧ s = '"' :: (body ++ ['"'])

/-! ## Written characters -/

theorem escapeLetter?_eq_some_iff {c e : Char} :
    escapeLetter? c = some e ↔ (e, c) ∈ escapes ∧ c ≠ '/' := by
  constructor
  · intro h
    refine ⟨unescape?_eq_some_iff.1 (unescape?_of_escapeLetter? h), ?_⟩
    rintro rfl
    cases h
  · rintro ⟨h, hc⟩
    simp only [escapes, List.mem_cons, Prod.mk.injEq, List.not_mem_nil, or_false] at h
    rcases h with ⟨rfl, rfl⟩ | ⟨rfl, rfl⟩ | ⟨rfl, rfl⟩ | ⟨rfl, rfl⟩ |
      ⟨rfl, rfl⟩ | ⟨rfl, rfl⟩ | ⟨rfl, rfl⟩ | ⟨rfl, rfl⟩
    case inr.inr.inl => exact absurd rfl hc
    all_goals rfl

theorem escapeLetter?_eq_none_iff {c : Char} :
    escapeLetter? c = none ↔ ∀ e, (e, c) ∈ escapes → c = '/' := by
  constructor
  · intro h e he
    refine Decidable.byContradiction fun hc => ?_
    rw [escapeLetter?_eq_some_iff.2 ⟨he, hc⟩] at h
    cases h
  · intro h
    refine Option.eq_none_iff_forall_ne_some.2 fun e he => ?_
    obtain ⟨hm, hc⟩ := escapeLetter?_eq_some_iff.1 he
    exact hc (h e hm)

theorem escapeLetter?_of_bare {c : Char} (hq : c ≠ '"') (hb : c ≠ '\\')
    (hc : 0x20 ≤ c.toNat) : escapeLetter? c = none := by
  have hl : ∀ p ∈ escapes, p.2 = '"' ∨ p.2 = '\\' ∨ p.2 = '/' ∨ p.2.toNat < 0x20 := by
    decide
  rw [escapeLetter?_eq_none_iff]
  intro e he
  rcases hl _ he with h | h | h | h
  · exact absurd h hq
  · exact absurd h hb
  · exact h
  · exact absurd h (Nat.not_lt.2 hc)

theorem literalChar_of_bare {c : Char} (hq : c ≠ '"') (hb : c ≠ '\\') (hc : 0x20 ≤ c.toNat) :
    literalChar c = [c] := by
  simp [literalChar, escapeLetter?_of_bare hq hb hc, isControl, Nat.not_lt.2 hc]

theorem getElem?_hexDigits {d : Nat} (h : d < 16) :
    "0123456789abcdef".toList[d]? = some d.digitChar :=
  (by decide : ∀ d : Fin 16, "0123456789abcdef".toList[d.val]? = some d.val.digitChar) ⟨d, h⟩

/-- What stands between the quotes of a sparing literal is what is written. -/
theorem denotesSparingly_iff {s t : Text} :
    DenotesSparingly s t ↔ s = t.flatMap literalChar := by
  constructor
  · intro h
    induction h with
    | nil => rfl
    | bare hq hb hc _ ih => rw [List.flatMap_cons, literalChar_of_bare hq hb hc, ih]; rfl
    | lettered he hc _ ih =>
      rw [List.flatMap_cons, literalChar, escapeLetter?_eq_some_iff.2 ⟨he, hc⟩, ih]
      rfl
    | @numbered a b c s t hc he ha hb _ ih =>
      have hn : escapeLetter? c = none := escapeLetter?_eq_none_iff.2 fun e h => absurd h (he e)
      rw [getElem?_hexDigits (by omega), Option.some.injEq] at ha hb
      rw [List.flatMap_cons, literalChar, hn, ih, ← ha, ← hb]
      simp [isControl, hc]
  · rintro rfl
    induction t with
    | nil => exact .nil
    | cons c t ih =>
      rw [List.flatMap_cons, literalChar]
      cases he : escapeLetter? c with
      | some e =>
        obtain ⟨hm, hc⟩ := escapeLetter?_eq_some_iff.1 he
        exact .lettered hm hc ih
      | none =>
        have hn := escapeLetter?_eq_none_iff.1 he
        by_cases hc : c.toNat < 0x20
        · have hs : ∀ e, (e, c) ∉ escapes := fun e h => by
            rw [hn e h] at hc
            exact absurd hc (by decide)
          simpa [isControl, hc] using
            .numbered hc hs (getElem?_hexDigits (by omega)) (getElem?_hexDigits (by omega)) ih
        · obtain ⟨hq, hb⟩ := ne_of_escapeLetter?_eq_none he
          simpa [isControl, hc] using .bare hq hb (Nat.not_lt.1 hc) ih

/-- The sparing literal of a text is the one that is written. -/
theorem isSparing_iff {s t : Text} : IsSparing s t ↔ s = literal t := by
  simp [IsSparing, denotesSparingly_iff, literal]

/-! ## Lengths -/

theorem length_literalChar_le (c : Char) : (literalChar c).length ≤ 6 := by
  rw [literalChar]
  split
  · simp
  · split <;> simp

theorem HexQuad.length_eq {q : Text} {n : Nat} (h : HexQuad q n) : q.length = 4 := by
  cases h
  rfl

/-- No way to write a text between quotes is shorter than the one that is taken. -/
theorem Denotes.length_flatMap_le {s t : Text} (h : Denotes s t) :
    (t.flatMap literalChar).length ≤ s.length := by
  induction h with
  | nil => exact Nat.le_refl _
  | bare hq hb hc _ ih =>
    rw [List.flatMap_cons, literalChar_of_bare hq hb hc]
    exact Nat.succ_le_succ ih
  | @lettered e c s t he _ ih =>
    have hl : ∀ p ∈ escapes, (literalChar p.2).length ≤ 2 := by decide
    have hc : (literalChar c).length ≤ 2 := hl _ he
    simp only [List.flatMap_cons, List.length_append, List.length_cons]
    omega
  | @numbered q s t c hq _ ih =>
    have := length_literalChar_le c
    simp only [List.flatMap_cons, List.length_append, List.length_cons, hq.length_eq]
    omega
  | @paired q q' s t n m c hq _ _ _ _ _ _ _ ih =>
    have := length_literalChar_le c
    simp only [List.flatMap_cons, List.length_append, List.length_cons, hq.length_eq]
    omega

/-- No literal of a text is shorter than the sparing one. -/
theorem IsSparing.length_le {s s' t : Text} (h : IsSparing s t) (h' : IsLiteral s' t) :
    s.length ≤ s'.length := by
  obtain ⟨body, hb, rfl⟩ := h
  obtain ⟨body', hb', rfl⟩ := h'
  rw [denotesSparingly_iff.1 hb]
  have := hb'.length_flatMap_le
  simp only [List.length_cons, List.length_append]
  omega

end Json

end PromptWeave
