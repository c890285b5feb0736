import PromptWeave.Proofs.Json.Record
import PromptWeave.Proofs.Wire.Separated

/-! Versions of objects.

An object says of which version it is (`IsObjectOfVersion.unique`), and there is one of each version
of 32 bits (`isObjectOfVersion_compact`). The reader takes the bundle of any of them, not of the
version alone that is written. So a text without a separator that is no object of this version is
plain just if it is no object of another one (`decode_plain_iff_no_other_version`). -/

namespace PromptWeave

namespace Wire

section
variable {v : Nat} {w : Text} {b : Bundle}

/-- A text is an object of at most one version, and of one bundle. -/
theorem IsObjectOfVersion.unique (h : IsObjectOfVersion v w b) {v' : Nat} {b' : Bundle}
    (h' : IsObjectOfVersion v' w b') : v = v' ∧ b = b' := by
  obtain ⟨s, rest, hw, -, hr⟩ := isObjectOfVersion_iff.1 h
  obtain ⟨s', rest', hw', -, hr'⟩ := isObjectOfVersion_iff.1 h'
  obtain rfl : s = s' := (List.cons.inj (hw.symm.trans hw')).2
  rw [hr] at hr'
  cases hr'
  exact ⟨rfl, rfl⟩

theorem IsObjectOfVersion.isObjectOf (h : IsObjectOfVersion v w b) : IsObjectOf w b :=
  isObjectOf_iff.2 ⟨v, h⟩

theorem IsObjectOfVersion.decode_eq (h : IsObjectOfVersion v w b) : decode w = structured b :=
  decode_eq_structured_iff.2 h.isObjectOf

/-- The separator stands in no object. -/
theorem IsObjectOfVersion.not_infix (h : IsObjectOfVersion v w b) : ¬separator <:+: w :=
  fun hs => not_isObjectOf_of_mem (mem_of_holds_separator hs) b h.isObjectOf

end

/-- An object for a bundle, of some version. -/
def objectOfVersion (v : Nat) (b : Bundle) : Json :=
  .object [
    (versionKey, .number (.integer v)),
    (positiveKey, .text b.positive),
    (negativeKey, .text b.negative)]

theorem isObjectOfVersion_compact {v : Nat} (hv : v ≤ 2 ^ 32 - 1) (b : Bundle) :
    IsObjectOfVersion v (objectOfVersion v b).compact b := by
  have hs : Json.Spaces [] := List.nil_subset _
  have hn : Json.IsNatural (2 ^ 32 - 1) (Json.write .compact 1 (.number (.integer v))) v :=
    ⟨hv, by simp [Json.write, Json.Number.text, Text.ofInt, Text.ofNat]⟩
  have ho := Json.isObject_write Json.Layout.blank_compact 0
    [(versionKey, .number (.integer v)), (positiveKey, .text b.positive),
      (negativeKey, .text b.negative)]
  have h : IsObjectOfVersion v ([] ++ ((objectOfVersion v b).compact ++ [])) b :=
    .mk hs ho hs (.refl _) hn (Json.isLiteral_literal _) (Json.isLiteral_literal _)
  rwa [List.nil_append, List.append_nil] at h

/-- A text without a separator that is no object of the version that is written is read as a plain
text unless it is an object of another version: an object is read as its bundle whichever version it
says it is of. -/
theorem decode_plain_iff_no_other_version (w : Text) :
    ((¬"\u001eneg\u001e".toList <:+: w → (∀ b, ¬IsObjectOfVersion version w b) →
        decode w = plain w ∧ (decode w).bundle = ⟨w, []⟩) ↔
      ∀ v b, v ≠ version → ¬IsObjectOfVersion v w b) ∧
      ∀ v b, IsObjectOfVersion v w b → decode w = structured b := by
  refine ⟨⟨fun hc v b hv h => ?_, fun ho hs h1 => ?_⟩, fun _ _ h => h.decode_eq⟩
  · obtain ⟨hp, -⟩ := hc h.not_infix fun b' h' => hv (h.unique h').1
    rw [h.decode_eq] at hp
    cases hp
  · have hn : ∀ b, ¬IsObjectOf w b := by
      intro b hb
      obtain ⟨v, hv⟩ := isObjectOf_iff.1 hb
      by_cases hv1 : v = version
      · exact h1 b (hv1 ▸ hv)
      · exact ho v b hv1 hv
    have hp := (decode_eq_plain_iff hn).2 hs
    exact ⟨hp, by rw [hp, bundle]⟩

/-- An object of the second version is not read as a plain text. -/
theorem decode_second_version_ne_plain :
    let w := "\x7b\"pc_bundle\":2,\"pos\":\"x\",\"neg\":\"y\"\x7d".toList
    ¬"\u001eneg\u001e".toList <:+: w ∧ (∀ b, ¬IsObjectOfVersion version w b) ∧
      decode w = structured ⟨['x'], ['y']⟩ ∧
      ¬(decode w = plain w ∧ (decode w).bundle = ⟨w, []⟩) := by
  intro w
  have hw : (objectOfVersion 2 ⟨['x'], ['y']⟩).compact = w := by decide +kernel
  have h : IsObjectOfVersion 2 w ⟨['x'], ['y']⟩ :=
    hw ▸ isObjectOfVersion_compact (by decide) ⟨['x'], ['y']⟩
  refine ⟨h.not_infix, fun b h1 => ?_, h.decode_eq, ?_⟩
  · exact absurd (h1.unique h).1 (by decide)
  · rintro ⟨hp, -⟩
    rw [h.decode_eq] at hp
    cases hp

end Wire

end PromptWeave
