import PromptWeave.Proofs.Json.Stable

/-! Members that are kept beside the fields.

A reader that keeps the members that are no fields gives them sorted, each with the last of its
values, and none with the key of a field (`kept_of_readFields`). Such members, written behind those
of the fields, are kept again as they are (`readFields_write_kept`). -/

namespace PromptWeave

namespace Json

/-- Members that were kept beside fields: their values were read with `depth` brackets to open, and
none of them has the key of a field. -/
structure Kept (fields : List Field) (depth : Nat) (others : Members) : Prop where
  holds : others.Holds (Within depth)
  foreign : ∀ m ∈ others, m.1 ∉ fields.map Field.key

theorem PartialRow.readField_eq_none {fields : List Field} {row : PartialRow fields} {depth : Nat}
    {key s : Text} : row.readField depth key s fields = none ↔ key ∉ fields.map Field.key := by
  induction fields with
  | nil => exact ⟨fun _ => List.not_mem_nil, fun _ => rfl⟩
  | cons f fs ih =>
    obtain ⟨v, row⟩ := row
    by_cases hk : f.key = key
    · simp [readField, hk]
    · simp [readField, hk, Ne.symm hk, ih]

section
variable {fields : List Field} {depth : Nat}

theorem Kept.insert {others : Members} (h : Kept fields depth others) {key : Text}
    (hk : key ∉ fields.map Field.key) {v : Json} (hv : Within depth v) :
    Kept fields depth (others.insert key v) where
  holds := h.holds.insert key hv
  foreign m hm := by
    rcases Members.mem_of_mem_insert hm with rfl | hm
    · exact hk
    · exact h.foreign m hm

theorem kept_of_readFields {s rest : Text} {row : PartialRow fields} {others : Members}
    (h : readFields fields .kept depth s = .ok ((row, others), rest)) :
    Kept fields depth others := by
  let keeps (a : PartialRow fields × Members) := Kept fields depth a.2
  have he : keeps (PartialRow.empty fields, []) :=
    ⟨⟨.nil, List.forall_mem_nil _⟩, List.forall_mem_nil _⟩
  refine readMembers_keeps (P := keeps) (fun a a' key s rest ha h => ?_) he h
  obtain ⟨row₀, others₀⟩ := a
  dsimp only at h
  split at h
  · obtain ⟨⟨row₁, s₁⟩, -, h⟩ := exists_of_map_eq_ok h
    cases h
    exact ha
  · rename_i hk
    obtain ⟨s₁, -, h⟩ := exists_of_bind_eq_ok h
    obtain ⟨⟨v, s₂⟩, hv, h⟩ := exists_of_bind_eq_ok h
    cases h
    exact ha.insert (PartialRow.readField_eq_none.1 hk) (within_of_readValue hv)

/-! ## Written beside fields -/

/-- A member gives its value to the field with its key, or it joins the other members if there is
no such field. -/
inductive Keeps (Ls : Languages fields) (depth : Nat) :
    PartialRow fields × Members → Text × Text → PartialRow fields × Members → Prop
  | field {row row' : PartialRow fields} {m : Text × Text} {others : Members} :
      PartialRow.Puts Ls row m row' → Keeps Ls depth (row, others) m (row', others)
  | other {row : PartialRow fields} {m : Text × Text} {others others' : Members} :
      m.1 ∉ fields.map Field.key → Inserts depth others m others' →
      Keeps Ls depth (row, others) m (row, others')

theorem readFields_kept_complete {Ls : Languages fields} (hL : Languages.Covered depth fields Ls)
    {t : Text} {ms : List (Text × Text)} (ht : IsInside ms t) {row : PartialRow fields}
    {others : Members} (hs : Steps (Keeps Ls depth) (PartialRow.empty fields, []) ms (row, others))
    (rest : Text) :
    readFields fields .kept depth (t ++ '}' :: rest) = .ok ((row, others), rest) := by
  refine readMembers_complete (fun a a' key b c value rest h hb hc hr => ?_) ht hs rest (by simp)
  generalize hm : (key, value) = m at h
  cases h with
  | field hp =>
    subst hm
    simp [PartialRow.readField_of_puts hL hp hb hc hr, Except.map]
  | other hk hi =>
    subst hm
    obtain ⟨v, hv, rfl⟩ := hi
    simp [PartialRow.readField_eq_none.2 hk, readColon_spaces hb, hv hc hr, bind, Except.bind, pure,
      Except.pure]

/-- The members of a row, written with other members behind them, are read as that row beside those
members. -/
theorem readFields_write_kept (hn : (fields.map Field.key).Nodup) {need : Nat} {row : Row fields}
    (hrow : Row.ReadsBack need fields row) (hd : need ≤ depth) {others : Members} {within : Nat}
    (hk : Kept fields within others) (hf : ∀ m ∈ others, m.2.floatless) (hw : within ≤ depth)
    {layout : Layout} (hl : layout.Blank) (outer : Nat) (rest : Text) :
    ∃ inside,
      write layout outer (.object (Row.members fields row ++ others)) ++ rest = '{' :: inside ∧
      readFields fields .kept depth inside = .ok ((Row.full fields row, others), rest) := by
  obtain ⟨t, ht, hwrite⟩ := isObject_write hl outer (Row.members fields row ++ others)
  refine ⟨t ++ '}' :: rest, by simp [hwrite], ?_⟩
  -- The members of the row fill it while there are no others, and then the row stays.
  have hfirst := steps_of_spelled hn (Row.spelled_full hl hrow (outer + 1)) (.refl _)
  have hrest := steps_inserts hl hw (outer + 1) []
    (fun m hm => any_readsBack (hk.holds.values m hm) (hf m hm)) hk.holds.sorted
  have hsteps : Steps (Keeps (Languages.readable need fields) depth) (PartialRow.empty fields, [])
      ((Row.members fields row ++ others).map (memberText layout (outer + 1)))
      (Row.full fields row, others) := by
    rw [List.map_append]
    refine (hfirst.map (·, []) fun m _ _ _ h => .field h).append
      (hrest.map (Row.full fields row, ·) fun m hm _ _ h => .other ?_ h)
    obtain ⟨n, hmem, rfl⟩ := List.mem_map.1 hm
    exact hk.foreign n hmem
  exact readFields_kept_complete (Languages.readable_covered hd fields) ht hsteps rest

end

end Json

end PromptWeave
