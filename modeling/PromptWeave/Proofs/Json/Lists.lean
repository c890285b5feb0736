import PromptWeave.Proofs.Json.Record

/-! Lists.

What holds of each item that is read holds of all items of a list (`forall_of_readItems`). A list of
values that are read back is read back itself, since none of its items begins like the end of the
list (`readItems_write`). -/

namespace PromptWeave

namespace Json

/-- The items of a list have what the reader gives each of them. -/
theorem forall_of_readItems {α : Type} {read : Text → Except Fault (α × Text)}
    {P : α → Prop}
    (hr : ∀ ⦃s rest : Text⦄ ⦃a : α⦄, read s = .ok (a, rest) → P a)
    {fuel : Nat} {first : Bool}
    {s rest : Text} {items : List α} (h : readItems read fuel first s = .ok (items, rest)) :
    ∀ a ∈ items, P a := by
  induction fuel generalizing first s items with
  | zero => cases h
  | succ fuel ih =>
    obtain ⟨next, -, h⟩ := exists_of_bind_eq_ok h
    cases next with
    | none =>
      obtain ⟨s', -, h⟩ := exists_of_bind_eq_ok h
      cases h
      exact List.forall_mem_nil _
    | some s₁ =>
      obtain ⟨⟨a, s₂⟩, ha, h⟩ := exists_of_bind_eq_ok h
      obtain ⟨⟨as, s₃⟩, has, h⟩ := exists_of_bind_eq_ok h
      cases h
      exact List.forall_mem_cons.2 ⟨hr ha, ih has⟩

/-! ## What is written -/

/-- A text begins with a character that neither is space nor closes a list. -/
def Opens (s : Text) : Prop :=
  ∃ c t, s = c :: t ∧ isSpace c = false ∧ c ≠ ']'

theorem Opens.nextItem_true {t space : Text} (h : Opens t) (hs : Spaces space) (rest : Text) :
    nextItem true (space ++ (t ++ rest)) = .ok (some (t ++ rest)) := by
  obtain ⟨c, t, rfl, hc, hb⟩ := h
  simp [nextItem, skipSpace_spaces hs hc, hb]

theorem Opens.nextItem_false {t space : Text} (h : Opens t) (hs : Spaces space) (rest : Text) :
    nextItem false (',' :: (space ++ (t ++ rest))) = .ok (some (t ++ rest)) := by
  obtain ⟨c, t, rfl, hc, hb⟩ := h
  simp [nextItem, skipSpace_cons (c := ',') (by decide), skipSpace_spaces hs hc, hb]

theorem nextItem_end {space : Text} (hs : Spaces space) (first : Bool) (rest : Text) :
    nextItem first (space ++ ']' :: rest) = .ok none := by
  simp [nextItem, skipSpace_spaces hs (c := ']') (by decide)]

theorem endList_end {space : Text} (hs : Spaces space) (rest : Text) :
    endList (space ++ ']' :: rest) = .ok rest := by
  simp [endList, skipSpace_spaces hs (c := ']') (by decide)]

section
variable {α : Type} {shape : Shape α} {need depth : Nat} {layout : Layout}

theorem stops_writeItems (layout : Layout) (depth : Nat) (items : List Json) {closing : Text}
    (hc : Spaces closing) (rest : Text) :
    Stops (writeItems layout depth items ++ (closing ++ ']' :: rest)) := by
  cases items with
  | nil => exact stops_append (spaces_iff.1 hc) (stops_cons (by decide) _)
  | cons v items =>
    rw [writeItems]
    exact stops_cons (by decide) _

theorem length_le_writeItems (layout : Layout) (depth : Nat) (items : List Json) :
    items.length ≤ (writeItems layout depth items).length := by
  induction items with
  | nil => exact Nat.zero_le _
  | cons v items ih =>
    rw [writeItems]
    simp only [List.length_append, List.length_cons]
    omega

/-- The items of a written list behind the first one are read back. -/
theorem readItems_writeItems (hl : layout.Blank) (hd : need ≤ depth) {outer : Nat}
    {values : List α} (hr : ∀ a ∈ values, shape.ReadsBack need a)
    (ho : ∀ a ∈ values, Opens (write layout outer (shape.write a))) {closing : Text}
    (hc : Spaces closing) (rest : Text) {fuel : Nat} (hf : values.length < fuel) :
    readItems (shape.read depth) fuel false
      (writeItems layout outer (values.map shape.write) ++ (closing ++ ']' :: rest)) =
        .ok (values, rest) := by
  induction values generalizing fuel with
  | nil =>
    obtain ⟨fuel, rfl⟩ := Nat.exists_eq_succ_of_ne_zero (n := fuel) (by omega)
    simp [writeItems, readItems, nextItem_end hc, endList_end hc, bind, Except.bind, pure,
      Except.pure]
  | cons a values ih =>
    obtain ⟨fuel, rfl⟩ := Nat.exists_eq_succ_of_ne_zero (n := fuel) (by omega)
    rw [List.forall_mem_cons] at hr ho
    have hi := ih hr.2 ho.2 (Nat.lt_of_succ_lt_succ hf)
    have hn := ho.1.nextItem_false (spaces_iff.2 (hl.newline outer))
      (writeItems layout outer (values.map shape.write) ++ (closing ++ ']' :: rest))
    have hv := hr.1 layout hl depth outer [] _ hd (List.forall_mem_nil _)
      (stops_writeItems layout outer (values.map shape.write) hc rest)
    rw [List.nil_append] at hv
    simp [writeItems, readItems, hn, hv, hi, bind, Except.bind, pure, Except.pure]

/-- What stands between the brackets of a written list is read back. -/
theorem readItems_write (hl : layout.Blank) (hd : need ≤ depth) {outer : Nat} {values : List α}
    (hr : ∀ a ∈ values, shape.ReadsBack need a)
    (ho : ∀ a ∈ values, Opens (write layout (outer + 1) (shape.write a))) (rest : Text) :
    ∃ inside, write layout outer (.array (values.map shape.write)) ++ rest = '[' :: inside ∧
      readItems (shape.read depth) inside.length true inside = .ok (values, rest) := by
  cases values with
  | nil =>
    refine ⟨']' :: rest, by rw [List.map_nil, write]; rfl, ?_⟩
    have hn := nextItem_end (List.nil_subset _ : Spaces []) true rest
    have he := endList_end (List.nil_subset _ : Spaces []) rest
    rw [List.nil_append] at hn he
    simp [readItems, hn, he, bind, Except.bind, pure, Except.pure]
  | cons a values =>
    rw [List.forall_mem_cons] at hr ho
    have hc : Spaces (layout.newline outer) := spaces_iff.2 (hl.newline outer)
    let tail := writeItems layout (outer + 1) (values.map shape.write) ++
      (layout.newline outer ++ ']' :: rest)
    refine ⟨layout.newline (outer + 1) ++ (write layout (outer + 1) (shape.write a) ++ tail),
      by simp [write, tail], ?_⟩
    have hn := ho.1.nextItem_true (spaces_iff.2 (hl.newline (outer + 1))) tail
    have hv := hr.1 layout hl depth (outer + 1) [] tail hd (List.forall_mem_nil _)
      (stops_writeItems layout (outer + 1) (values.map shape.write) hc rest)
    rw [List.nil_append] at hv
    have hf : values.length + 1 < (layout.newline (outer + 1) ++
        (write layout (outer + 1) (shape.write a) ++ tail)).length := by
      have hlen := length_le_writeItems layout (outer + 1) (values.map shape.write)
      obtain ⟨c, t, ht, -⟩ := ho.1
      simp only [ht, tail, List.length_append, List.length_cons, List.length_map] at hlen ⊢
      omega
    obtain ⟨fuel, he⟩ := Nat.exists_eq_succ_of_ne_zero (Nat.ne_zero_of_lt hf)
    rw [he] at hf ⊢
    have hi := readItems_writeItems hl hd hr.2 ho.2 hc rest (Nat.lt_of_succ_lt_succ hf)
    simp [readItems, hn, hv, tail, hi, bind, Except.bind, pure, Except.pure]

end

end Json

end PromptWeave
