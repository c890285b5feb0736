import PromptWeave.Json.Literal
import PromptWeave.Proofs.Json.Grammar

/-! The reader of string literals reads what the grammar describes.

Behind an opening quote it takes the characters up to the closing one if they stand for a text, and
gives that text (`readLiteral_eq_ok_iff`). -/

namespace PromptWeave

namespace Json

/-! ## Steps that succeed -/

theorem exists_of_bind_eq_ok {x : Except ε α} {f : α → Except ε β} {b : β}
    (h : x >>= f = .ok b) : ∃ a, x = .ok a ∧ f a = .ok b := by
  cases x with
  | error e => cases h
  | ok a => exact ⟨a, rfl, h⟩

theorem exists_of_map_eq_ok {x : Except ε α} {f : α → β} {b : β} (h : x.map f = .ok b) :
    ∃ a, x = .ok a ∧ f a = b := by
  cases x with
  | error e => cases h
  | ok a => exact ⟨a, rfl, Except.ok.inj h⟩

/-! ## Digits and letters -/

theorem eq_ofNat_of_toNat {c : Char} {n : Nat} (h : c.toNat = n) : c = Char.ofNat n := by
  rw [← h, Char.ofNat_toNat]

theorem digitIn?_eq_some_iff {c : Char} {v : Nat} :
    Text.digitIn? 16 c = some v ↔ HexDigit c v := by
  rw [hexDigit_iff]
  constructor
  · intro h
    obtain ⟨hv, hb⟩ := Option.filter_eq_some_iff.1 h
    have hb : v < 16 := by simpa using hb
    have of_lower (hc : c.toNat = v + if v < 10 then 48 else 87) := eq_ofNat_of_toNat hc
    have of_upper (hc : c.toNat = v + if v < 10 then 48 else 55) := eq_ofNat_of_toNat hc
    refine ⟨hb, ?_⟩
    split at hv
    · rename_i hc
      have h₁ : 48 ≤ c.toNat ∧ c.toNat ≤ 57 := Char.isDigit_iff_toNat.1 hc
      have hn : c.toNat - 48 = v := Option.some.inj hv
      exact .inl (of_lower (by split <;> omega))
    split at hv
    · rename_i hc
      have h₁ : 97 ≤ c.toNat ∧ c.toNat ≤ 102 := hc
      have hn : c.toNat - 97 + 10 = v := Option.some.inj hv
      exact .inl (of_lower (by split <;> omega))
    split at hv
    · rename_i hc
      have h₁ : 65 ≤ c.toNat ∧ c.toNat ≤ 70 := hc
      have hn : c.toNat - 65 + 10 = v := Option.some.inj hv
      exact .inr (of_upper (by split <;> omega))
    · cases hv
  · have lower : ∀ d : Fin 16,
        Text.digitIn? 16 (Char.ofNat (d.val + if d.val < 10 then 48 else 87)) = some d.val := by
      decide
    have upper : ∀ d : Fin 16,
        Text.digitIn? 16 (Char.ofNat (d.val + if d.val < 10 then 48 else 55)) = some d.val := by
      decide
    rintro ⟨hv, rfl | rfl⟩
    · exact lower ⟨v, hv⟩
    · exact upper ⟨v, hv⟩

theorem hexQuad?_eq_some_iff {a b c d : Char} {n : Nat} :
    hexQuad? a b c d = some n ↔ HexQuad [a, b, c, d] n := by
  constructor
  · intro h
    obtain ⟨digits, hm, hn⟩ := Option.bind_eq_some_iff.1 h
    simp only [List.mapM_cons, List.mapM_nil, Option.bind_eq_bind, Option.bind_eq_some_iff,
      Option.pure_def, Option.some.injEq] at hm
    obtain ⟨v, ha, _, ⟨w, hb, _,
      ⟨x, hc, _, ⟨y, hd, _, rfl, rfl⟩, rfl⟩, rfl⟩, rfl⟩ := hm
    cases hn
    simp only [digitIn?_eq_some_iff] at ha hb hc hd
    simpa [Text.valueOf] using HexQuad.mk ha hb hc hd
  · rintro ⟨ha, hb, hc, hd⟩
    simp only [← digitIn?_eq_some_iff] at ha hb hc hd
    simp [hexQuad?, ha, hb, hc, hd, Text.valueOf]

theorem HexQuad.lt {q : Text} {n : Nat} (h : HexQuad q n) : n < 0x10000 := by
  cases h with
  | mk ha hb hc hd =>
    have := ha.lt
    have := hb.lt
    have := hc.lt
    have := hd.lt
    omega

theorem HexQuad.exists_eq {q : Text} {n : Nat} (h : HexQuad q n) :
    ∃ a b c d, q = [a, b, c, d] ∧ hexQuad? a b c d = some n := by
  cases h with
  | mk ha hb hc hd => exact ⟨_, _, _, _, rfl, hexQuad?_eq_some_iff.2 (.mk ha hb hc hd)⟩

theorem unescape?_eq_some_iff {e c : Char} : unescape? e = some c ↔ (e, c) ∈ escapes := by
  constructor
  · intro h
    unfold unescape? at h
    repeat' split at h
    all_goals cases h
    all_goals subst_vars; decide
  · intro h
    simp only [escapes, List.mem_cons, Prod.mk.injEq, List.not_mem_nil, or_false] at h
    rcases h with ⟨rfl, rfl⟩ | ⟨rfl, rfl⟩ | ⟨rfl, rfl⟩ | ⟨rfl, rfl⟩ |
      ⟨rfl, rfl⟩ | ⟨rfl, rfl⟩ | ⟨rfl, rfl⟩ | ⟨rfl, rfl⟩ <;> rfl

/-! ## Surrogates -/

theorem toNat_ofNat {n : Nat} (h : n.isValidChar) : (Char.ofNat n).toNat = n := by
  rw [Char.ofNat, dif_pos h]
  rfl

theorem toNat_ofNat_of_not_surrogate {n : Nat} (h : n < 0x10000) (hl : ¬isLeading n)
    (ht : ¬isTrailing n) : (Char.ofNat n).toNat = n := by
  simp only [isLeading, isTrailing, Bool.and_eq_true, decide_eq_true_eq, not_and] at hl ht
  exact toNat_ofNat ((Nat.lt_or_ge n 0xD800).imp_right fun hn => by omega)

theorem toNat_pairChar {n m : Nat} (hn : isLeading n) (hm : isTrailing m) :
    (pairChar n m).toNat = 0x10000 + (n - 0xD800) * 0x400 + (m - 0xDC00) := by
  simp only [isLeading, isTrailing, Bool.and_eq_true, decide_eq_true_eq] at hn hm
  rw [pairChar, toNat_ofNat (.inr (by omega))]
  omega

theorem not_surrogate_toNat (c : Char) : ¬isLeading c.toNat ∧ ¬isTrailing c.toNat := by
  simp only [isLeading, isTrailing, Bool.and_eq_true, decide_eq_true_eq, not_and]
  rcases c.valid with h | h
  · have : c.toNat < 0xD800 := h
    omega
  · have : 0xDFFF < c.toNat := h.1
    omega

/-! ## Literals -/

theorem exists_of_consRead {c : Char} {r : Except Fault (Text × Text)} {t rest : Text}
    (h : consRead c r = .ok (t, rest)) : ∃ t', t = c :: t' ∧ r = .ok (t', rest) := by
  obtain ⟨⟨t', rest'⟩, hr, he⟩ := exists_of_map_eq_ok h
  cases he
  exact ⟨t', rfl, hr⟩

/-- What is read of a literal stands for the text that is given. -/
theorem denotes_of_readLiteral {s t rest : Text} (h : readLiteral s = .ok (t, rest)) :
    ∃ body, Denotes body t ∧ s = body ++ '"' :: rest := by
  fun_induction readLiteral s generalizing t rest with
  | case2 s =>
    cases h
    exact ⟨[], .nil, rfl⟩
  -- A pair of surrogates.
  | case7 a b c d n hq ht hl a' b' c' d' s m hq' ht' hc ih =>
    obtain ⟨t, rfl, hr⟩ := exists_of_consRead h
    obtain ⟨body, hb, rfl⟩ := ih hr
    have hn : 0xD800 ≤ n ∧ n ≤ 0xDBFF := by simpa [isLeading] using hl
    have hm : 0xDC00 ≤ m ∧ m ≤ 0xDFFF := by simpa [isTrailing] using ht'
    exact ⟨_, .paired (hexQuad?_eq_some_iff.1 hq) (hexQuad?_eq_some_iff.1 hq') hn.1 (by omega)
      hm.1 (by omega) (toNat_pairChar hl ht') hb, rfl⟩
  -- Any other escape of four digits.
  | case13 a b c d s n hq ht hl hc ih =>
    obtain ⟨t, rfl, hr⟩ := exists_of_consRead h
    obtain ⟨body, hb, rfl⟩ := ih hr
    have hq := hexQuad?_eq_some_iff.1 hq
    have hn := toNat_ofNat_of_not_surrogate hq.lt hl ht
    exact ⟨_, .numbered (hn.symm ▸ hq) hb, rfl⟩
  | case16 e s _ hu d he hc ih =>
    obtain ⟨t, rfl, hr⟩ := exists_of_consRead h
    obtain ⟨body, hb, rfl⟩ := ih hr
    exact ⟨_, .lettered (unescape?_eq_some_iff.1 he) hb, rfl⟩
  | case18 c s hq hb hc ih =>
    obtain ⟨t, rfl, hr⟩ := exists_of_consRead h
    obtain ⟨body, hd, rfl⟩ := ih hr
    exact ⟨_, .bare hq hb (by simpa [isControl] using hc) hd, rfl⟩
  | _ => cases h

theorem readLiteral_paired {a b c d a' b' c' d' : Char} {n m : Nat} (s : Text)
    (hn : hexQuad? a b c d = some n) (hm : hexQuad? a' b' c' d' = some m) (hl : isLeading n)
    (ht : isTrailing m) :
    readLiteral ('\\' :: 'u' :: a :: b :: c :: d :: '\\' :: 'u' :: a' :: b' :: c' :: d' :: s) =
      consRead (pairChar n m) (readLiteral s) := by
  have ht' : isTrailing n = false := by
    simp only [isLeading, Bool.and_eq_true, decide_eq_true_eq] at hl
    simp only [isTrailing, Bool.and_eq_false_iff, decide_eq_false_iff_not]
    omega
  rw [readLiteral.eq_def]
  simp [hn, hm, hl, ht, ht']

/-- A text between quotes is read as the text it stands for. -/
theorem readLiteral_of_denotes {body t : Text} (h : Denotes body t) (rest : Text) :
    readLiteral (body ++ '"' :: rest) = .ok (t, rest) := by
  induction h with
  | nil =>
    rw [List.nil_append, readLiteral.eq_def]
    rfl
  | bare hq hb hc _ ih =>
    rw [List.cons_append, readLiteral.eq_def]
    simp [hq, hb, isControl, Nat.not_lt.2 hc, ih, consRead, Except.map]
  | lettered he _ ih =>
    rw [List.cons_append, List.cons_append, readLiteral_lettered _ (unescape?_eq_some_iff.2 he), ih]
    rfl
  | @numbered q s t c hq _ ih =>
    obtain ⟨_, _, _, _, rfl, hv⟩ := hq.exists_eq
    obtain ⟨hl, ht⟩ := not_surrogate_toNat c
    simp only [List.cons_append, List.nil_append]
    rw [readLiteral_numbered _ hv (by simpa using hl) (by simpa using ht), ih, Char.ofNat_toNat]
    rfl
  | @paired q q' s t n m c hq hq' hn hn' hm hm' hc _ ih =>
    obtain ⟨_, _, _, _, rfl, hv⟩ := hq.exists_eq
    obtain ⟨_, _, _, _, rfl, hv'⟩ := hq'.exists_eq
    have hl : isLeading n := by simpa [isLeading] using ⟨hn, Nat.le_of_lt_succ hn'⟩
    have ht : isTrailing m := by simpa [isTrailing] using ⟨hm, Nat.le_of_lt_succ hm'⟩
    simp only [List.cons_append, List.nil_append]
    rw [readLiteral_paired _ hv hv' hl ht, ih,
      ← Char.toNat_inj.1 (hc.trans (toNat_pairChar hl ht).symm)]
    rfl

theorem readLiteral_eq_ok_iff {s t rest : Text} :
    readLiteral s = .ok (t, rest) ↔ ∃ body, Denotes body t ∧ s = body ++ '"' :: rest := by
  refine ⟨denotes_of_readLiteral, ?_⟩
  rintro ⟨body, hb, rfl⟩
  exact readLiteral_of_denotes hb rest

end Json

end PromptWeave
