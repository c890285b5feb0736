import PromptWeave.Proofs.Json.Rows

/-! Records read back what was written, whatever the order of their members.

A written object is the text of an object, whose members are the written ones (`isObject_write`).
Written values that are read back make up a language that is covered, and the written members of a
full row spell it (`Row.spelled_full`). -/

namespace PromptWeave

namespace Json

/-! ## Leaves -/

theorem isLiteral_literal (t : Text) : IsLiteral (literal t) t := by
  obtain ⟨body, hb, he⟩ := readLiteral_eq_ok_iff.1 (readLiteral_append t [])
  rw [← List.append_cancel_right he] at hb
  exact ⟨_, hb, rfl⟩

/-- A shape reads back values whose written texts stand for them in a language that it covers. -/
theorem Shape.Covers.readsBack {shape : Shape α} {L : Text → α → Prop}
    (h : ∀ depth, shape.Covers depth L) {a : α}
    (hw : ∀ layout outer, L (Json.write layout outer (shape.write a)) a) : shape.ReadsBack 0 a :=
  fun layout _ depth outer _ _ _ hs hr => h depth (spaces_iff.2 hs) (hw layout outer) hr

theorem Shape.text_readsBack (t : Text) : text.ReadsBack 0 t :=
  Covers.readsBack text_covers fun layout outer => by
    rw [text, Json.write]
    exact isLiteral_literal t

theorem Shape.natural_readsBack {name : Text} {high n : Nat} (hh : high ≤ greatestWord)
    (hn : n ≤ high) : (natural name high).ReadsBack 0 n :=
  Covers.readsBack (natural_covers hh) fun layout outer =>
    ⟨hn, by simp [natural, Json.write, Number.text, Text.ofInt, Text.ofNat]⟩

/-! ## Written objects -/

section
variable {layout : Layout}

/-- A member as it is written. -/
def memberText (layout : Layout) (depth : Nat) (m : Text × Json) : Text × Text :=
  (m.1, write layout depth m.2)

/-- The first of some written members, with those that follow and the space behind them. -/
theorem exists_isMember_write (hl : layout.Blank) (depth : Nat) (m : Text × Json) (after : Members)
    {closing : Text} (hc : Spaces closing) :
    ∃ s t, IsMember (memberText layout depth m) s ∧
      MoreMembers (after.map (memberText layout depth)) t ∧
      s ++ t = layout.newline depth ++ (literal m.1 ++ ':' :: (layout.gap ++
        (write layout depth m.2 ++ (writeMembers layout depth after ++ closing)))) := by
  have hn : Spaces (layout.newline depth) := spaces_iff.2 (hl.newline depth)
  have hg : Spaces layout.gap := spaces_iff.2 hl.gap
  have hnil : Spaces [] := List.nil_subset _
  -- The space before the closing bracket belongs to the last member, the others end in none.
  induction after generalizing m with
  | nil =>
    refine ⟨_, [], .mk hn (isLiteral_literal m.1) hnil hg hc, .nil, ?_⟩
    simp [writeMembers]
  | cons next after ih =>
    obtain ⟨s, t, hs, ht, he⟩ := ih next
    refine ⟨_, _, .mk hn (isLiteral_literal m.1) hnil hg hnil, .cons hs ht, ?_⟩
    simp [writeMembers, he]

/-- A written object is the text of an object. -/
theorem isObject_write (hl : layout.Blank) (depth : Nat) (members : Members) :
    IsObject (members.map (memberText layout (depth + 1)))
      (write layout depth (.object members)) := by
  cases members with
  | nil => exact ⟨[], .empty (List.nil_subset _), by simp [write]⟩
  | cons m after =>
    have hc : Spaces (layout.newline depth) := spaces_iff.2 (hl.newline depth)
    obtain ⟨s, t, hs, ht, he⟩ := exists_isMember_write hl (depth + 1) m after hc
    exact ⟨s ++ t, .members hs ht, by simp [write, he]⟩

end

/-! ## Rows -/

/-- The texts that are read as the values of the fields, with `need` brackets to open. -/
def Languages.readable (need : Nat) : (fields : List Field) → Languages fields
  | [] => ()
  | f :: fs =>
    (fun text v => ∀ ⦃depth : Nat⦄, need ≤ depth →
      ∀ ⦃space rest : Text⦄, Spaces space →
      Stops rest → f.shape.read depth (space ++ (text ++ rest)) = .ok (v, rest),
    Languages.readable need fs)

theorem Languages.readable_covered {need depth : Nat} (hd : need ≤ depth) :
    (fields : List Field) → Covered depth fields (readable need fields)
  | [] => trivial
  | _ :: fs => ⟨fun _ _ _ _ hs h hr => h hd hs hr, readable_covered hd fs⟩

/-- A row in which all values are known. -/
def Row.full : (fields : List Field) → Row fields → PartialRow fields
  | [], () => ()
  | _ :: fs, (v, row) => (some v, Row.full fs row)

/-- All values of a row are read back. -/
def Row.ReadsBack (need : Nat) : (fields : List Field) → Row fields → Prop
  | [], () => True
  | f :: fs, (v, row) => f.shape.ReadsBack need v ∧ Row.ReadsBack need fs row

theorem Row.complete_full (fields : List Field) (row : Row fields) :
    (Row.full fields row).complete fields = .ok row := by
  induction fields with
  | nil => rfl
  | cons f fs ih =>
    obtain ⟨v, row⟩ := row
    simp [Row.full, PartialRow.complete, ih row, Except.map]

theorem Row.orElse_full (fields : List Field) (row others : Row fields) :
    (Row.full fields row).orElse fields others = row := by
  induction fields with
  | nil => rfl
  | cons f fs ih =>
    obtain ⟨v, row⟩ := row
    obtain ⟨w, others⟩ := others
    simp [Row.full, PartialRow.orElse, ih row]
    rfl

/-- The written members of a row spell it. -/
theorem Row.spelled_full {layout : Layout} (hl : layout.Blank) {need : Nat} {fields : List Field}
    {row : Row fields} (hr : Row.ReadsBack need fields row) (outer : Nat) :
    PartialRow.Spelled (Languages.readable need fields) (Row.full fields row)
      ((Row.members fields row).map (memberText layout outer)) := by
  induction fields with
  | nil => exact .nil
  | cons f fs ih =>
    obtain ⟨v, row⟩ := row
    refine .cons (fun depth hd space rest hs hrest => ?_) (ih hr.2)
    exact hr.1 layout hl depth outer space rest hd (spaces_iff.1 hs) hrest

/-! ## Records -/

namespace Record

/-- A full row is complete. -/
theorem complete_full (record : Record α) (row : Row record.fields) :
    record.complete (Row.full record.fields row) = .ok (record.ofRow row) := by
  unfold complete
  split
  · rw [Row.orElse_full]
  · rw [Row.complete_full]

/-- An object whose members are those of a value, in any order, is read as that value. -/
theorem read_write_of_perm (record : Record α) {need : Nat} {a : α}
    (ho : record.ofRow (record.toRow a) = a) (hn : (record.fields.map Field.key).Nodup)
    (hr : Row.ReadsBack need record.fields (record.toRow a)) {members : Members}
    (hp : members.Perm (Row.members record.fields (record.toRow a))) {layout : Layout}
    (hl : layout.Blank) {depth : Nat} (hd : need < depth) (outer : Nat) {space : Text}
    (hs : ∀ c ∈ space, isSpace c) (rest : Text) :
    record.read depth (space ++ (write layout outer (.object members) ++ rest)) =
      .ok (a, rest) := by
  obtain ⟨depth, rfl⟩ := Nat.exists_eq_succ_of_ne_zero (n := depth) (by omega)
  obtain ⟨t, ht, hw⟩ := isObject_write hl outer members
  have hsteps := steps_of_spelled hn (Row.spelled_full hl hr (outer + 1)) (hp.map _).symm
  have hf := readFields_complete (Languages.readable_covered (Nat.le_of_lt_succ hd) record.fields)
    record.unknown ht hsteps rest
  have he : space ++ (write layout outer (.object members) ++ rest) =
      space ++ '{' :: (t ++ '}' :: rest) := by simp [hw]
  rw [he, read, skipSpace_append_cons hs (by decide)]
  simp [readObject, hf, record.complete_full, ho, bind, Except.bind, pure, Except.pure]

end Record

end Json

end PromptWeave
