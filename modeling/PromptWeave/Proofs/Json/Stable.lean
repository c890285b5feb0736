import PromptWeave.Proofs.Json.Values

/-! Shapes that read back whatever they read.

A stable shape gives nothing but values that are read back from the texts written for them, however
the texts that they were read from were laid out. The shapes of leaves are stable, and so are lists
and records of stable shapes. -/

namespace PromptWeave

namespace Json

/-- What the reader of a shape gives is read back, with `need` brackets to open. -/
def Shape.Stable {α : Type} (shape : Shape α) (need : Nat) : Prop :=
  ∀ ⦃depth : Nat⦄ ⦃s rest : Text⦄ ⦃a : α⦄, shape.read depth s = .ok (a, rest) →
    shape.ReadsBack need a

namespace Shape

theorem ReadsBack.mono {α : Type} {shape : Shape α} {need need' : Nat} {a : α}
    (h : shape.ReadsBack need a) (hn : need ≤ need') : shape.ReadsBack need' a :=
  fun layout hl depth outer space rest hd => h layout hl depth outer space rest (Nat.le_trans hn hd)

theorem Stable.mono {α : Type} {shape : Shape α} {need need' : Nat} (h : shape.Stable need)
    (hn : need ≤ need') : shape.Stable need' :=
  fun _ _ _ _ hr => (h hr).mono hn

/-! ## Leaves -/

theorem text_stable : text.Stable 0 :=
  fun _ _ _ t _ => text_readsBack t

theorem flag_readsBack (b : Bool) : flag.ReadsBack 0 b := by
  intro layout _ depth outer space rest _ hs _
  cases b with
  | true =>
    change readFlag (space ++ 't' :: ("rue".toList ++ rest)) = _
    rw [readFlag, skipSpace_append_cons hs (by decide)]
    exact congrArg (Except.map _) (word_append "rue".toList rest)
  | false =>
    change readFlag (space ++ 'f' :: ("alse".toList ++ rest)) = _
    rw [readFlag, skipSpace_append_cons hs (by decide)]
    exact congrArg (Except.map _) (word_append "alse".toList rest)

theorem flag_stable : flag.Stable 0 :=
  fun _ _ _ b _ => flag_readsBack b

theorem natural_stable {name : Text} {high : Nat} (hh : high ≤ greatestWord) :
    (natural name high).Stable 0 := by
  intro depth s rest n h
  obtain ⟨_, _, _, hn, _⟩ := natural_keepsTo name high h
  exact natural_readsBack hh hn.1

theorem bounds_of_readInteger {wanted s rest : Text} {low high n : Int}
    (h : readInteger wanted low high s = .ok (n, rest)) :
    (low ≤ n ∧ n ≤ high) ∧ leastSigned ≤ n ∧ n ≤ greatestWord := by
  unfold readInteger at h
  split at h
  · cases h
  split at h
  · obtain ⟨⟨x, s'⟩, hx, h⟩ := exists_of_bind_eq_ok h
    split at h
    · cases h
    rename_i m s'' hm
    cases hm
    split at h
    · rename_i hb
      cases h
      have hn : Within 0 (.number (.integer n)) := within_of_readNumber hx
      obtain - | - | ⟨hl, hh⟩ := hn
      exact ⟨hb, hl, hh⟩
    · cases h
  · cases h

theorem integer_readsBack {name : Text} {low high n : Int} (hb : low ≤ n ∧ n ≤ high)
    (hw : leastSigned ≤ n ∧ n ≤ greatestWord) : (integer name low high).ReadsBack 0 n := by
  intro layout _ depth outer space rest _ hs hr
  obtain ⟨c, t, ht, hc⟩ := exists_ofInt_eq_cons n
  have hn := readNumber_ofInt hw.1 hw.2 hr
  change readInteger name low high
    (space ++ (Json.write layout outer (.number (.integer n)) ++ rest)) = _
  rw [Json.write, Number.text]
  rw [ht, List.cons_append] at hn ⊢
  rw [readInteger, skipSpace_append_cons hs (not_isSpace_of_sign_or_digit hc)]
  simp [hc, hn, hb, bind, Except.bind, pure, Except.pure]

theorem integer_stable (name : Text) (low high : Int) : (integer name low high).Stable 0 := by
  intro depth s rest n h
  obtain ⟨hb, hw⟩ := bounds_of_readInteger h
  exact integer_readsBack hb hw

section
variable {α : Type} {all : List α} {name : α → Text}

theorem named_name {t : Text} {a : α} (h : Json.named all name t = .ok a) :
    Json.named all name (name a) = .ok a := by
  unfold Json.named at h
  split at h
  · rename_i b hb
    cases h
    have ht : name a = t := by simpa using List.find?_some hb
    rw [Json.named, ht, hb]
  · cases h

theorem named_readsBack {a : α} (h : Json.named all name (name a) = .ok a) :
    (named all name).ReadsBack 0 a := by
  intro layout _ depth outer space rest _ hs _
  change readNamed all name depth (space ++ (Json.write layout outer (.text (name a)) ++ rest)) = _
  rw [Json.write, literal_append, readNamed, skipSpace_append_cons hs (by decide)]
  simp [readLiteral_append, h, bind, Except.bind, pure, Except.pure]

/-- A value is found by its name, be that a string or the only key of an object. -/
theorem named_of_readNamed {depth : Nat} {s rest : Text} {a : α}
    (h : readNamed all name depth s = .ok (a, rest)) : ∃ t, Json.named all name t = .ok a := by
  unfold readNamed at h
  split at h
  · cases h
  split at h
  · obtain ⟨⟨t, s₁⟩, -, h⟩ := exists_of_bind_eq_ok h
    obtain ⟨b, hb, h⟩ := exists_of_bind_eq_ok h
    cases h
    exact ⟨t, hb⟩
  split at h
  · split at h
    · cases h
    obtain ⟨s₁, -, h⟩ := exists_of_bind_eq_ok h
    obtain ⟨⟨t, s₂⟩, -, h⟩ := exists_of_bind_eq_ok h
    obtain ⟨b, hb, h⟩ := exists_of_bind_eq_ok h
    obtain ⟨s₃, -, h⟩ := exists_of_bind_eq_ok h
    obtain ⟨s₄, -, h⟩ := exists_of_bind_eq_ok h
    split at h
    · cases h
    split at h
    · cases h
      exact ⟨t, hb⟩
    · cases h
  · cases h

theorem named_stable : (named all name).Stable 0 := by
  intro depth s rest a h
  obtain ⟨t, ht⟩ := named_of_readNamed h
  exact named_readsBack (named_name ht)

end

/-! ## Lists -/

theorem list_readsBack {α : Type} {shape : Shape α} {need : Nat} {values : List α}
    (hr : ∀ a ∈ values, shape.ReadsBack need a)
    (ho : ∀ a ∈ values, ∀ layout outer, Opens (Json.write layout outer (shape.write a))) :
    shape.list.ReadsBack (need + 1) values := by
  intro layout hl depth outer space rest hd hs _
  obtain ⟨depth, rfl⟩ := Nat.exists_eq_succ_of_ne_zero (Nat.ne_zero_of_lt hd)
  obtain ⟨inside, hw, hi⟩ := readItems_write hl (Nat.le_of_succ_le_succ hd) hr
    (fun a ha => ho a ha layout (outer + 1)) rest
  change readList shape.read (depth + 1)
    (space ++ (Json.write layout outer (.array (values.map shape.write)) ++ rest)) = _
  rw [hw, readList, skipSpace_append_cons hs (by decide)]
  exact hi

theorem texts_readsBack (values : List Text) : text.list.ReadsBack 1 values :=
  list_readsBack (fun t _ => text_readsBack t) fun _ _ => opens_of_floatless rfl

/-- What is written as data of another shape is read back if the data are, and stand for it. -/
theorem ReadsBack.map {α β : Type} {shape : Shape α} {f : α → β} {data : β → α}
    {need : Nat} {b : β} (h : shape.ReadsBack need (data b)) (hb : f (data b) = b) :
    (shape.map f data).ReadsBack need b := by
  intro layout hl depth outer space rest hd hs hr
  change (shape.read depth
    (space ++ (Json.write layout outer (shape.write (data b)) ++ rest))).map _ = _
  rw [h layout hl depth outer space rest hd hs hr]
  exact congrArg (fun b => Except.ok (b, rest)) hb

end Shape

/-! ## Rows -/

def StableFields (need : Nat) : List Field → Prop
  | [] => True
  | f :: fs => f.shape.Stable need ∧ StableFields need fs

/-- The values of a row that are known are read back. -/
def PartialRow.ReadsBack (need : Nat) : (fields : List Field) → PartialRow fields → Prop
  | [], () => True
  | f :: fs, (v, row) => (∀ w ∈ v, f.shape.ReadsBack need w) ∧
      PartialRow.ReadsBack need fs row

theorem PartialRow.readsBack_empty (need : Nat) :
    (fields : List Field) → (PartialRow.empty fields).ReadsBack need fields
  | [] => trivial
  | _ :: fs => ⟨nofun, readsBack_empty need fs⟩

section
variable {fields : List Field} {need depth : Nat} {s rest : Text}

theorem PartialRow.ReadsBack.readField (hf : StableFields need fields)
    {row row' : PartialRow fields} {key : Text} (hr : row.ReadsBack need fields)
    (h : row.readField depth key s fields = some (.ok (row', rest))) :
    row'.ReadsBack need fields := by
  induction fields with
  | nil => cases h
  | cons f fs ih =>
    obtain ⟨v, row⟩ := row
    rw [PartialRow.readField] at h
    split at h
    · replace h := Option.some.inj h
      split at h
      · cases h
      obtain ⟨s₁, -, h⟩ := exists_of_bind_eq_ok h
      obtain ⟨⟨w, s₂⟩, hw, h⟩ := exists_of_bind_eq_ok h
      cases h
      refine ⟨?_, hr.2⟩
      rintro _ ⟨⟩
      exact hf.1 hw
    · obtain ⟨r, hread, h⟩ := Option.map_eq_some_iff.1 h
      obtain ⟨⟨row₁, s₁⟩, rfl, h⟩ := exists_of_map_eq_ok h
      cases h
      exact ⟨hr.1, ih hf.2 hr.2 hread⟩

theorem PartialRow.readsBack_of_readList (hf : StableFields need fields)
    {row : PartialRow fields} {n : Nat} {first : Bool}
    (h : PartialRow.readList depth fields first s = .ok ((row, n), rest)) :
    row.ReadsBack need fields := by
  induction fields generalizing n first s with
  | nil => trivial
  | cons f fs ih =>
    obtain ⟨next, -, h⟩ := exists_of_bind_eq_ok h
    cases next with
    | none =>
      cases h
      exact readsBack_empty need (f :: fs)
    | some s₁ =>
      obtain ⟨⟨v, s₂⟩, hv, h⟩ := exists_of_bind_eq_ok h
      obtain ⟨⟨⟨row₁, m⟩, s₃⟩, hrow, h⟩ := exists_of_bind_eq_ok h
      cases h
      refine ⟨?_, ih hf.2 hrow⟩
      rintro _ ⟨⟩
      exact hf.1 hv

theorem PartialRow.readsBack_of_readFields (hf : StableFields need fields)
    {unknown : Unknown} {row : PartialRow fields} {others : Members}
    (h : readFields fields unknown depth s = .ok ((row, others), rest)) :
    row.ReadsBack need fields := by
  let keeps (a : PartialRow fields × Members) := a.1.ReadsBack need fields
  have he : keeps (PartialRow.empty fields, []) := readsBack_empty need fields
  refine readMembers_keeps (P := keeps) (fun a a' key s rest ha h => ?_) he h
  obtain ⟨row₀, others₀⟩ := a
  dsimp only at h
  split at h
  · rename_i r hr
    obtain ⟨⟨row₁, s₁⟩, rfl, h⟩ := exists_of_map_eq_ok h
    cases h
    exact ha.readField hf hr
  split at h
  · obtain ⟨s₁, -, h⟩ := exists_of_bind_eq_ok h
    obtain ⟨s₂, -, h⟩ := exists_of_bind_eq_ok h
    cases h
    exact ha
  · obtain ⟨s₁, -, h⟩ := exists_of_bind_eq_ok h
    obtain ⟨⟨v, s₂⟩, -, h⟩ := exists_of_bind_eq_ok h
    cases h
    exact ha
  · cases h

theorem PartialRow.ReadsBack.complete {row : PartialRow fields} {full : Row fields}
    (hr : row.ReadsBack need fields) (h : row.complete fields = .ok full) :
    Row.ReadsBack need fields full := by
  induction fields with
  | nil => trivial
  | cons f fs ih =>
    obtain ⟨v | v, row⟩ := row
    · cases h
    · obtain ⟨full, hfull, rfl⟩ := exists_of_map_eq_ok h
      exact ⟨hr.1 v rfl, ih hr.2 hfull⟩

theorem PartialRow.ReadsBack.orElse {row : PartialRow fields} {others : Row fields}
    (hr : row.ReadsBack need fields) (ho : Row.ReadsBack need fields others) :
    Row.ReadsBack need fields (row.orElse fields others) := by
  induction fields with
  | nil => trivial
  | cons f fs ih =>
    obtain ⟨v, row⟩ := row
    refine ⟨?_, ih hr.2 ho.2⟩
    cases v with
    | none => exact ho.1
    | some v => exact hr.1 v rfl

end

/-! ## Records -/

namespace Record

/-- A record type whose rows carry the data of its values and no other, and whose fields have
different keys and stable shapes. -/
structure Regular {α : Type} (record : Record α) (need : Nat) : Prop where
  toRow_ofRow : ∀ row, record.toRow (record.ofRow row) = row
  keys : (record.fields.map Field.key).Nodup
  stable : StableFields need record.fields
  standard : ∀ a ∈ record.standard?, Row.ReadsBack need record.fields (record.toRow a)

section
variable {α : Type} {record : Record α} {need : Nat}

/-- A value is that of its row, and all values of the row are read back. -/
structure ReadsBack (record : Record α) (need : Nat) (a : α) : Prop where
  ofRow_toRow : record.ofRow (record.toRow a) = a
  row : Row.ReadsBack need record.fields (record.toRow a)

theorem Regular.readsBack_of_complete (hr : record.Regular need) {row : PartialRow record.fields}
    (hrow : row.ReadsBack need record.fields) {a : α} (h : record.complete row = .ok a) :
    record.ReadsBack need a := by
  -- Values that the text leaves out come from the standard value, or the text is refused.
  have hfull : ∃ full, record.ofRow full = a ∧ Row.ReadsBack need record.fields full := by
    unfold complete at h
    split at h
    · rename_i b hb
      cases h
      exact ⟨_, rfl, hrow.orElse (hr.standard b hb)⟩
    split at h
    · rename_i full hfull
      cases h
      exact ⟨full, rfl, hrow.complete hfull⟩
    · cases h
  obtain ⟨full, rfl, hb⟩ := hfull
  exact ⟨by rw [hr.toRow_ofRow], by rwa [hr.toRow_ofRow]⟩

theorem Regular.readsBack_of_read (hr : record.Regular need) {depth : Nat} {s rest : Text} {a : α}
    (h : record.read depth s = .ok (a, rest)) : record.ReadsBack need a := by
  unfold read at h
  split at h
  · cases h
  split at h
  · split at h
    · cases h
    split at h
    · obtain ⟨⟨⟨row, n⟩, s₁⟩, hrow, h⟩ := exists_of_bind_eq_ok h
      dsimp only at h
      split at h
      · cases h
      obtain ⟨b, hb, h⟩ := exists_of_bind_eq_ok h
      obtain ⟨s₂, -, h⟩ := exists_of_bind_eq_ok h
      cases h
      exact hr.readsBack_of_complete (PartialRow.readsBack_of_readList hr.stable hrow) hb
    · obtain ⟨⟨⟨row, others⟩, s₁⟩, hrow, h⟩ := exists_of_bind_eq_ok h
      obtain ⟨b, hb, h⟩ := exists_of_bind_eq_ok h
      cases h
      exact hr.readsBack_of_complete (PartialRow.readsBack_of_readFields hr.stable hrow) hb
  · cases h

theorem ReadsBack.shape {a : α} (ha : record.ReadsBack need a)
    (hk : (record.fields.map Field.key).Nodup) : record.shape.ReadsBack (need + 1) a := by
  intro layout hl depth outer space rest hd hs _
  exact record.read_write_of_perm ha.ofRow_toRow hk ha.row (.refl _) hl hd outer hs rest

theorem Regular.shape_stable (hr : record.Regular need) : record.shape.Stable (need + 1) := by
  intro _ _ _ a h
  exact (hr.readsBack_of_read h).shape hr.keys

end

end Record

end Json

end PromptWeave
