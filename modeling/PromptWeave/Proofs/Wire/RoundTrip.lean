import PromptWeave.Proofs.Json.Record
import PromptWeave.Proofs.Wire.Grammar

/-! Reading a wire that was written.

Reading gives back the bundle that was written, and the form of the wire says whether it had to be
put into an object (`decode_encode_shape`). In the other direction, a text that is read as a bundle
is longer than the positive text it carries, so a text passes for itself just where it is plain
(`bundle_decode_eq_iff`). -/

namespace PromptWeave

namespace Wire

/-! ## Objects -/

/-- The members of an object are those of its record, sorted. -/
theorem members_perm (b : Bundle) :
    [(negativeKey, Json.text b.negative), (versionKey, .number (.integer version)),
      (positiveKey, .text b.positive)].Perm
      (Json.Row.members record.fields (record.toRow (version, b))) :=
  (List.Perm.swap ..).trans (.cons _ (.swap ..))

theorem record_readsBack (b : Bundle) :
    Json.Row.ReadsBack 0 record.fields (record.toRow (version, b)) :=
  ⟨Json.Shape.natural_readsBack (by decide) (by decide), Json.Shape.text_readsBack b.positive,
    Json.Shape.text_readsBack b.negative, trivial⟩

theorem parse_object (b : Bundle) :
    record.shape.parse (object b).compact = .ok (version, b) := by
  have h : record.read Json.greatestDepth ([] ++ ((object b).compact ++ [])) =
      .ok ((version, b), []) :=
    record.read_write_of_perm rfl (by decide) (record_readsBack b) (members_perm b)
      Json.Layout.blank_compact (by decide) 0 (by simp) []
  rw [List.nil_append, List.append_nil] at h
  simp [Json.Shape.parse, Json.parseWith, Json.Record.shape, h, Json.skipSpace, bind, Except.bind,
    pure, Except.pure]

/-- The object of a bundle is read as that bundle. -/
theorem decode_object (b : Bundle) : decode (object b).compact = structured b := by
  have hs : (Text.trimStart (object b).compact).head? = some '{' := by
    rw [object, Json.compact, Json.write]
    rfl
  simp [decode, readStructured?, hs, parse_object]

/-! ## Written wires -/

/-- A plain wire carries its own text. -/
theorem eq_of_decode_eq_plain {w t : Text} (h : decode w = plain t) : t = w := by
  unfold decode at h
  split at h
  · cases h
  · split at h <;> cases h
    rfl

theorem decode_nil : decode [] = plain [] := by
  decide

theorem isBundle_eq_false_iff {w : Text} : (decode w).isBundle = false ↔ decode w = plain w := by
  constructor
  · intro h
    cases hw : decode w with
    | plain t => rw [eq_of_decode_eq_plain hw]
    | structured b | separated b => simp [hw, isBundle] at h
  · intro h
    rw [h]
    rfl

/-- A bundle without negative text whose positive text is plain is sent as that text. -/
theorem decode_encode_of_plain {b : Bundle} (hn : b.negative = [])
    (hp : decode b.positive = plain b.positive) : decode (encode b) = plain b.positive := by
  rw [encode, if_pos ⟨hn, isBundle_eq_false_iff.2 hp⟩, hp]

/-- All other bundles are sent as objects. -/
theorem decode_encode_of_not_plain {b : Bundle}
    (h : ¬(b.negative = [] ∧ decode b.positive = plain b.positive)) :
    decode (encode b) = structured b := by
  rw [encode, if_neg (fun h' => h ⟨h'.1, isBundle_eq_false_iff.1 h'.2⟩), decode_object]

/-- Reading a written wire gives its bundle. -/
@[simp] theorem bundle_decode_encode (b : Bundle) : (decode (encode b)).bundle = b := by
  by_cases h : b.negative = [] ∧ decode b.positive = plain b.positive
  · rw [decode_encode_of_plain h.1 h.2, bundle, ← h.1]
  · rw [decode_encode_of_not_plain h, bundle]

/-- A written wire is read as its bundle, in one of two forms: as a text where there is no negative
text and the positive one is plain, and as an object in every other case. It is never read as two
texts with a separator between them. -/
theorem decode_encode_shape (p n : Text) :
    (n = [] → (∃ t, decode p = plain t) → decode (encode ⟨p, n⟩) = plain p) ∧
      (¬(n = [] ∧ ∃ t, decode p = plain t) →
        decode (encode ⟨p, n⟩) = structured ⟨p, n⟩) ∧
      (decode (encode ⟨p, n⟩)).bundle = ⟨p, n⟩ ∧
      ∀ b, decode (encode ⟨p, n⟩) ≠ separated b := by
  have hp : (∃ t, decode p = plain t) ↔ decode p = plain p :=
    ⟨fun ⟨t, ht⟩ => eq_of_decode_eq_plain ht ▸ ht, fun h => ⟨p, h⟩⟩
  rw [hp]
  refine ⟨fun hn h => decode_encode_of_plain hn h, fun h => decode_encode_of_not_plain h,
    bundle_decode_encode _, fun b hb => ?_⟩
  by_cases h : n = [] ∧ decode p = plain p
  · rw [decode_encode_of_plain (b := ⟨p, n⟩) h.1 h.2] at hb
    cases hb
  · rw [decode_encode_of_not_plain (b := ⟨p, n⟩) h] at hb
    cases hb

/-! ## Texts that pass for themselves -/

theorem length_of_decode_structured {w : Text} {b : Bundle} (h : decode w = structured b) :
    b.positive.length < w.length := by
  obtain @⟨_, object, _, _, pos, _, _, _, _, -, hobject, -, hp, -, hpos, -⟩ :=
    decode_eq_structured_iff.1 h
  have hm : pos.length < object.length :=
    hobject.length_lt (hp.mem_iff.2 (List.mem_cons_of_mem _ List.mem_cons_self))
  have := hpos.length_lt
  simp only [List.length_append]
  omega

theorem length_of_decode_separated {w : Text} {b : Bundle} (h : decode w = separated b) :
    b.positive.length < w.length := by
  unfold decode at h
  split at h
  · cases h
  · split at h <;> cases h
    rename_i p n hc
    rw [Text.eq_of_cut? hc]
    simp [separator]

/-- A wire carries itself, without negative text, just where it is plain. -/
theorem bundle_decode_eq_iff {w : Text} :
    (decode w).bundle = ⟨w, []⟩ ↔ decode w = plain w := by
  constructor
  · intro h
    cases hw : decode w with
    | plain t => rw [eq_of_decode_eq_plain hw]
    | structured b =>
      rw [hw, bundle] at h
      have := length_of_decode_structured hw
      simp [h] at this
    | separated b =>
      rw [hw, bundle] at h
      have := length_of_decode_separated hw
      simp [h] at this
  · intro h
    rw [h]
    rfl

end Wire

end PromptWeave
