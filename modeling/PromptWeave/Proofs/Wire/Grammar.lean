import Mathlib.Algebra.Group.Nat.Defs
import PromptWeave.Proofs.Json.Rows
import PromptWeave.Proofs.Text.Cut
import PromptWeave.Wire

/-! The three forms of a wire.

A wire is read as an object just if it is the text of one with the three members of a bundle
(`decode_eq_structured_iff`). Every other wire is cut at the first separator
(`decode_eq_separated_iff`), and is plain if there is none (`decode_eq_plain_iff`). -/

namespace PromptWeave

namespace Wire
open Json (exists_of_bind_eq_ok)

/-- The texts of the objects that carry a bundle, with space around them: there are three members in
any order, a version of 32 bits and the literals of both channels. -/
inductive IsObjectOf : Text → Bundle → Prop
  | mk {before object after version pos neg : Text} {ms : List (Text × Text)} {v : Nat}
      {b : Bundle} :
      Json.Spaces before → Json.IsObject ms object → Json.Spaces after →
      ms.Perm [("pc_bundle".toList, version), ("pos".toList, pos), ("neg".toList, neg)] →
      Json.IsNatural (2 ^ 32 - 1) version v → Json.IsLiteral pos b.positive →
      Json.IsLiteral neg b.negative → IsObjectOf (before ++ (object ++ after)) b

/-! ## Objects -/

/-- The texts that stand for the values of the fields. -/
def languages : Json.Languages record.fields :=
  (Json.IsNatural (UInt32.size - 1), Json.IsLiteral, Json.IsLiteral, ())

theorem languages_kept : Json.Languages.Kept record.fields languages :=
  ⟨Json.Shape.natural_keepsTo _ _, Json.Shape.text_keepsTo, Json.Shape.text_keepsTo, trivial⟩

theorem languages_covered (depth : Nat) : Json.Languages.Covered depth record.fields languages :=
  ⟨Json.Shape.natural_covers (by decide) depth, Json.Shape.text_covers depth,
    Json.Shape.text_covers depth, trivial⟩

/-- The members that spell a complete row are those of a bundle. -/
theorem exists_spelled_iff {ms : List (Text × Text)} {v : Nat} {b : Bundle} :
    (∃ row, Json.PartialRow.Spelled languages row ms ∧ record.complete row = .ok (v, b)) ↔
      ∃ version pos neg, ms = [(versionKey, version), (positiveKey, pos), (negativeKey, neg)] ∧
        Json.IsNatural (UInt32.size - 1) version v ∧ Json.IsLiteral pos b.positive ∧
        Json.IsLiteral neg b.negative := by
  constructor
  · rintro ⟨row, hs, hc⟩
    obtain - | hs | ⟨hv, hs⟩ := hs
    · cases hc
    obtain - | hs | ⟨hp, hs⟩ := hs
    · cases hc
    obtain - | hs | ⟨hn, hs⟩ := hs
    · cases hc
    cases hs
    cases hc
    exact ⟨_, _, _, rfl, hv, hp, hn⟩
  · rintro ⟨version, pos, neg, rfl, hv, hp, hn⟩
    exact ⟨(some v, some b.positive, some b.negative, ()),
      .cons (f := ⟨versionKey, .natural "u32".toList (UInt32.size - 1)⟩) hv
        (.cons (f := ⟨positiveKey, .text⟩) hp
          (.cons (f := ⟨negativeKey, .text⟩) hn .nil)), rfl⟩

theorem readObject_eq_ok_iff {depth : Nat} {s rest : Text} {v : Nat} {b : Bundle} :
    record.readObject depth s = .ok ((v, b), rest) ↔
      ∃ t ms version pos neg, Json.IsInside ms t ∧
        ms.Perm [(versionKey, version), (positiveKey, pos), (negativeKey, neg)] ∧
        Json.IsNatural (UInt32.size - 1) version v ∧ Json.IsLiteral pos b.positive ∧
        Json.IsLiteral neg b.negative ∧ s = t ++ '}' :: rest := by
  rw [record.readObject_eq_ok_iff rfl (by decide) languages_kept (languages_covered depth)]
  constructor
  · rintro ⟨t, ms, ms', row, ht, hs, hp, hc, rfl⟩
    obtain ⟨version, pos, neg, rfl, hv, hpos, hneg⟩ := exists_spelled_iff.1 ⟨row, hs, hc⟩
    exact ⟨t, ms, version, pos, neg, ht, hp.symm, hv, hpos, hneg, rfl⟩
  · rintro ⟨t, ms, version, pos, neg, ht, hp, hv, hpos, hneg, rfl⟩
    obtain ⟨row, hs, hc⟩ := exists_spelled_iff.2 ⟨version, pos, neg, rfl, hv, hpos, hneg⟩
    exact ⟨t, ms, _, row, ht, hs, hp.symm, hc, rfl⟩

/-- White space takes the space of JSON with it. -/
theorem trimStart_skipSpace (w : Text) : Text.trimStart (Json.skipSpace w) = Text.trimStart w := by
  induction w with
  | nil => rfl
  | cons c w ih =>
    cases hc : Json.isSpace c with
    | false => rw [Json.skipSpace_cons hc]
    | true =>
      have hb : Text.isBlank c := by
        simp only [Json.isSpace, Bool.or_eq_true, beq_iff_eq] at hc
        rcases hc with ((rfl | rfl) | rfl) | rfl <;> decide
      simpa [Json.skipSpace, Text.trimStart, hc, hb] using ih

/-- A text is read as an object if it begins with a brace, the record is read behind it, and
nothing but space is left. -/
theorem readStructured?_eq_some_iff_readObject {w : Text} {b : Bundle} :
    readStructured? w = some b ↔
      ∃ v s rest, Json.skipSpace w = '{' :: s ∧ Json.skipSpace rest = [] ∧
        record.readObject (Json.greatestDepth - 1) s = .ok ((v, b), rest) := by
  constructor
  · intro h
    unfold readStructured? at h
    split at h
    · rename_i hb
      split at h
      · cases h
        rename_i v hp
        obtain ⟨⟨a, rest⟩, hr, hp⟩ := exists_of_bind_eq_ok hp
        dsimp only at hp
        split at hp <;> cases hp
        rename_i he
        simp only [Json.Record.shape, Json.Record.read] at hr
        split at hr
        · cases hr
        rename_i c s hc
        split at hr
        · rename_i hbr
          -- The reader of records takes lists too; these do not begin with a brace.
          rcases hbr with rfl | rfl
          · rw [← trimStart_skipSpace, hc] at hb
            cases hb
          · exact ⟨v, s, rest, hc, he, hr⟩
        · cases hr
      · cases h
    · cases h
  · rintro ⟨v, s, rest, hw, hrest, hr⟩
    have hb : (Text.trimStart w).head? = some '{' := by
      rw [← trimStart_skipSpace, hw]
      rfl
    have hp : record.read Json.greatestDepth w = .ok ((v, b), rest) := by
      simpa [Json.Record.read, hw, Json.greatestDepth] using hr
    simp [readStructured?, hb, Json.Shape.parse, Json.parseWith, Json.Record.shape, hp, hrest, bind,
      Except.bind, pure, Except.pure]

/-- Objects that carry a bundle and say which version they are of. -/
inductive IsObjectOfVersion : Nat → Text → Bundle → Prop
  | mk {before object after version pos neg : Text} {ms : List (Text × Text)} {v : Nat}
      {b : Bundle} :
      Json.Spaces before → Json.IsObject ms object → Json.Spaces after →
      ms.Perm [("pc_bundle".toList, version), ("pos".toList, pos), ("neg".toList, neg)] →
      Json.IsNatural (2 ^ 32 - 1) version v → Json.IsLiteral pos b.positive →
      Json.IsLiteral neg b.negative → IsObjectOfVersion v (before ++ (object ++ after)) b

theorem isObjectOf_iff {w : Text} {b : Bundle} :
    IsObjectOf w b ↔ ∃ v, IsObjectOfVersion v w b := by
  constructor
  · rintro ⟨hbefore, hobject, hafter, hp, hv, hpos, hneg⟩
    exact ⟨_, .mk hbefore hobject hafter hp hv hpos hneg⟩
  · rintro ⟨v, hbefore, hobject, hafter, hp, hv, hpos, hneg⟩
    exact .mk hbefore hobject hafter hp hv hpos hneg

/-- An object of a version is what the reader of the record takes for one. -/
theorem isObjectOfVersion_iff {v : Nat} {w : Text} {b : Bundle} :
    IsObjectOfVersion v w b ↔
      ∃ s rest, Json.skipSpace w = '{' :: s ∧ Json.skipSpace rest = [] ∧
        record.readObject (Json.greatestDepth - 1) s = .ok ((v, b), rest) := by
  constructor
  · rintro ⟨hbefore, ⟨t, ht, rfl⟩, hafter, hp, hv, hpos, hneg⟩
    refine ⟨_, _, Json.skipSpace_spaces hbefore (by decide) _,
      Json.skipSpace_eq_nil_of_spaces hafter, readObject_eq_ok_iff.2
        ⟨t, _, _, _, _, ht, hp, hv, hpos, hneg, by simp⟩⟩
  · rintro ⟨s, rest, hw, hrest, hr⟩
    obtain ⟨t, ms, version, pos, neg, ht, hp, hv, hpos, hneg, rfl⟩ := readObject_eq_ok_iff.1 hr
    obtain ⟨before, hbefore, he⟩ := Json.exists_skipSpace w
    have hafter : Json.Spaces rest := Json.spaces_of_skipSpace_eq_nil hrest
    have hw : w = before ++ ('{' :: (t ++ ['}']) ++ rest) := by
      rw [he, hw]
      simp
    rw [hw]
    exact .mk hbefore ⟨t, ht, rfl⟩ hafter hp hv hpos hneg

theorem readStructured?_eq_some_iff {w : Text} {b : Bundle} :
    readStructured? w = some b ↔ IsObjectOf w b := by
  rw [readStructured?_eq_some_iff_readObject, isObjectOf_iff]
  exact exists_congr fun v => isObjectOfVersion_iff.symm

/-! ## Forms -/

theorem decode_eq_structured_iff {w : Text} {b : Bundle} :
    decode w = structured b ↔ IsObjectOf w b := by
  rw [← readStructured?_eq_some_iff]
  constructor
  · intro h
    unfold decode at h
    split at h
    · cases h
      assumption
    · split at h <;> cases h
  · intro h
    simp [decode, h]

theorem readStructured?_eq_none {w : Text} (h : ∀ b, ¬IsObjectOf w b) :
    readStructured? w = none :=
  Option.eq_none_iff_forall_ne_some.2 fun b hb => h b (readStructured?_eq_some_iff.1 hb)

/-- A wire that is no object is cut at its first separator. -/
theorem decode_eq_separated_iff {w : Text} (h : ∀ b, ¬IsObjectOf w b) {p n : Text} :
    decode w = separated ⟨p, n⟩ ↔ Text.FirstAt separator w p n := by
  rw [← Text.cut?_eq_some_iff, decode, readStructured?_eq_none h]
  cases Text.cut? separator w with
  | none => simp
  | some parts => simp [Prod.ext_iff]

/-- A wire that is no object is plain if there is no separator. -/
theorem decode_eq_plain_iff {w : Text} (h : ∀ b, ¬IsObjectOf w b) :
    decode w = plain w ↔ ¬separator <:+: w := by
  rw [← Text.cut?_eq_none_iff, decode, readStructured?_eq_none h]
  cases Text.cut? separator w <;> simp

/-- A wire is read as an object just if it is the text of one that carries a bundle. Any other wire
is cut at the first place of the separator, or is plain if the separator stands nowhere. -/
theorem decode_grammar (w : Text) :
    (∀ b, decode w = structured b ↔ IsObjectOf w b) ∧
      ((∀ b, ¬IsObjectOf w b) →
        ("\u001eneg\u001e".toList <:+: w →
          ∃ p n, Text.FirstAt "\u001eneg\u001e".toList w p n ∧
            decode w = separated ⟨p, n⟩) ∧
        (¬"\u001eneg\u001e".toList <:+: w → decode w = plain w)) := by
  refine ⟨fun b => decode_eq_structured_iff, fun h => ⟨fun hs => ?_,
    (decode_eq_plain_iff h).2⟩⟩
  obtain ⟨p, n, hf⟩ := Text.exists_firstAt hs
  exact ⟨p, n, hf, (decode_eq_separated_iff h).2 hf⟩

end Wire

end PromptWeave
