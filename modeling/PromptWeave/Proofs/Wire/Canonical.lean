import PromptWeave.Proofs.Json.Sparing
import PromptWeave.Proofs.Wire.RoundTrip

/-! Canonical wires.

A bundle has many wires, and one of them is written. Which texts are written at all can be said
without the writer (`IsCanonical`): the plain ones, and the compact objects of those bundles that
need one (`exists_encode_eq_iff`). Reading a wire and writing it again leaves just these as they
are, and makes one of them of any other (`encode_decode_canonical`). -/

namespace PromptWeave

namespace Wire

/-- The compact text of an object of the version that is written, from the literals of the texts. -/
def objectText (negative positive : Text) : Text :=
  "\x7b\"neg\":".toList ++ (negative ++ (",\"pc_bundle\":1,\"pos\":".toList ++
    (positive ++ ['\x7d'])))

/-- A bundle that its positive text would not stand for. -/
def NeedsObject (b : Bundle) : Prop :=
  b.negative ≠ [] ∨ (decode b.positive).isBundle = true

/-- The wires that stand for themselves: plain ones, and compact objects with sparing literals whose
bundles need an object. -/
inductive IsCanonical : Text → Prop
  | plain {w : Text} : decode w = plain w → IsCanonical w
  | object {b : Bundle} {negative positive : Text} : NeedsObject b →
      Json.IsSparing negative b.negative → Json.IsSparing positive b.positive →
      IsCanonical (objectText negative positive)

/-! ## Written objects -/

theorem objectText_eq (negative positive : Text) :
    objectText negative positive =
      '\x7b' :: (Json.literal negativeKey ++ [':']) ++ (negative ++
        (',' :: (Json.literal versionKey ++ ':' :: (Json.Number.text (.integer version) ++
          ',' :: (Json.literal positiveKey ++ [':']))) ++ (positive ++ ['\x7d']))) :=
  congrArg₂ (fun opening middle => opening ++ (negative ++ (middle ++ (positive ++ ['\x7d']))))
    (by decide) (by decide +kernel)

theorem compact_object (b : Bundle) :
    (object b).compact = objectText (Json.literal b.negative) (Json.literal b.positive) := by
  rw [objectText_eq, object, Json.compact, Json.write]
  simp only [Json.write, Json.writeMembers, Json.Layout.compact, List.append_assoc,
    List.cons_append, List.nil_append, List.append_nil]

theorem decode_objectText {b : Bundle} {negative positive : Text}
    (hn : Json.IsSparing negative b.negative) (hp : Json.IsSparing positive b.positive) :
    decode (objectText negative positive) = structured b := by
  rw [Json.isSparing_iff.1 hn, Json.isSparing_iff.1 hp, ← compact_object, decode_object]

theorem encode_of_needsObject {b : Bundle} (h : NeedsObject b) : encode b = (object b).compact := by
  rw [encode, if_neg]
  rintro ⟨hn, hp⟩
  rcases h with h | h
  · exact h hn
  · rw [hp] at h
    cases h

theorem encode_of_not_needsObject {b : Bundle} (h : ¬NeedsObject b) :
    encode b = b.positive ∧ decode b.positive = plain b.positive := by
  obtain ⟨hn, hp⟩ := not_or.1 h
  have hn : b.negative = [] := Decidable.not_not.1 hn
  have hp : (decode b.positive).isBundle = false := Bool.eq_false_iff.2 hp
  exact ⟨by rw [encode, if_pos ⟨hn, hp⟩], isBundle_eq_false_iff.1 hp⟩

/-! ## What is written -/

theorem isCanonical_encode (b : Bundle) : IsCanonical (encode b) := by
  by_cases h : NeedsObject b
  · rw [encode_of_needsObject h, compact_object]
    exact .object h (Json.isSparing_iff.2 rfl) (Json.isSparing_iff.2 rfl)
  · obtain ⟨he, hp⟩ := encode_of_not_needsObject h
    rw [he]
    exact .plain hp

/-- Reading a canonical wire and writing it again gives it back. -/
theorem IsCanonical.encode_decode {w : Text} (h : IsCanonical w) :
    encode (decode w).bundle = w := by
  cases h with
  | plain hw => rw [hw, bundle, encode, if_pos ⟨rfl, isBundle_eq_false_iff.2 hw⟩]
  | @object b negative positive hb hn hp =>
    rw [decode_objectText hn hp, bundle, encode_of_needsObject hb, compact_object,
      Json.isSparing_iff.1 hn, Json.isSparing_iff.1 hp]

/-- The texts that are written are the canonical ones. -/
theorem exists_encode_eq_iff {w : Text} : (∃ b, encode b = w) ↔ IsCanonical w := by
  constructor
  · rintro ⟨b, rfl⟩
    exact isCanonical_encode b
  · exact fun h => ⟨_, h.encode_decode⟩

theorem encode_injective : Function.Injective encode := by
  intro b b' h
  rw [← bundle_decode_encode b, h, bundle_decode_encode]

/-- An object is canonical just if its bundle needs one and it is spelled in the one way that is
written. -/
theorem isCanonical_iff_of_structured {w : Text} {b : Bundle} (h : decode w = structured b) :
    IsCanonical w ↔ NeedsObject b ∧
      ∃ negative positive, Json.IsSparing negative b.negative ∧
      Json.IsSparing positive b.positive ∧ w = objectText negative positive := by
  constructor
  · rintro (hw | ⟨hb, hn, hp⟩)
    · rw [h] at hw
      cases hw
    · rw [decode_objectText hn hp] at h
      cases h
      exact ⟨hb, _, _, hn, hp, rfl⟩
  · rintro ⟨hb, _, _, hn, hp, rfl⟩
    exact .object hb hn hp

theorem not_isCanonical_of_separated {w : Text} {b : Bundle} (h : decode w = separated b) :
    ¬IsCanonical w := by
  rintro (hw | ⟨hb, hn, hp⟩)
  · rw [h] at hw
    cases hw
  · rw [decode_objectText hn hp] at h
    cases h

/-- Reading a wire and writing what was read leaves the canonical wires as they are and makes a
canonical one of any other. No wire with a separator is canonical, and of the objects only those
that are needed, with their members, spaces, version and literals as they are written; these
literals are as short as any. So the texts that are written are the canonical ones, each for one
bundle. -/
theorem encode_decode_canonical :
    (∀ w, encode (decode w).bundle = w ↔ IsCanonical w) ∧
      (∀ w, ¬IsCanonical w →
        encode (decode w).bundle ≠ w ∧ IsCanonical (encode (decode w).bundle)) ∧
      (∀ w b, decode w = separated b → ¬IsCanonical w) ∧
      (∀ w b, decode w = structured b →
        (IsCanonical w ↔ NeedsObject b ∧
          ∃ negative positive, Json.IsSparing negative b.negative ∧
          Json.IsSparing positive b.positive ∧ w = objectText negative positive)) ∧
      (∀ s s' t, Json.IsSparing s t → Json.IsLiteral s' t → s.length ≤ s'.length) ∧
      (∀ w, (∃ b, encode b = w) ↔ IsCanonical w) ∧ Function.Injective encode := by
  have hc : ∀ w, encode (decode w).bundle = w ↔ IsCanonical w :=
    fun w => ⟨fun h => exists_encode_eq_iff.1 ⟨_, h⟩, IsCanonical.encode_decode⟩
  refine ⟨hc, fun w hw => ⟨fun h => hw ((hc w).1 h), isCanonical_encode _⟩,
    fun _ _ => not_isCanonical_of_separated, fun _ _ => isCanonical_iff_of_structured,
    fun _ _ _ h h' => h.length_le h', fun _ => exists_encode_eq_iff, encode_injective⟩

end Wire

end PromptWeave
