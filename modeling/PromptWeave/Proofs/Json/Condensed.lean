import PromptWeave.Proofs.Json.Values

/-! Texts of values without the space between their tokens.

Space between tokens means nothing, and space in a string belongs to it (`condense`). However a
value is laid out, its text differs from the compact one by such space only (`condense_write`). -/

namespace PromptWeave

namespace Json

/-- Where a character of a JSON text stands: outside strings, inside a string, or behind a backslash
inside a string. -/
inductive Spot where
  | outside
  | inside
  | escaped

/-- A text that goes on from a place, without the space between its tokens. -/
def condenseFrom : Spot → Text → Text
  | _, [] => []
  | .outside, c :: s =>
    if isSpace c then condenseFrom .outside s
    else c :: condenseFrom (if c = '"' then .inside else .outside) s
  | .inside, c :: s =>
    c :: condenseFrom (if c = '"' then .outside else if c = '\\' then .escaped else .inside) s
  | .escaped, c :: s => c :: condenseFrom .inside s

/-- A text without the space between its tokens. -/
def condense (s : Text) : Text :=
  condenseFrom .outside s

example : condense "\x7b \"a\\\" b\" :\t[1, 2]\x7d\n".toList =
    "\x7b\"a\\\" b\":[1,2]\x7d".toList := by decide

/-! ## Tokens -/

theorem condense_nil : condense [] = [] :=
  rfl

theorem condense_append_of_space {space : Text} (h : ∀ c ∈ space, isSpace c) (s : Text) :
    condense (space ++ s) = condense s := by
  induction space with
  | nil => rfl
  | cons c space ih =>
    rw [List.forall_mem_cons] at h
    rw [List.cons_append, condense, condenseFrom, if_pos h.1]
    exact ih h.2

/-- A character that is neither space nor the beginning of a string. -/
def Bare (c : Char) : Prop :=
  isSpace c = false ∧ c ≠ '"'

instance (c : Char) : Decidable (Bare c) :=
  inferInstanceAs (Decidable (_ ∧ _))

theorem condense_cons_of_bare {c : Char} (h : Bare c) (s : Text) :
    condense (c :: s) = c :: condense s := by
  rw [condense, condenseFrom, if_neg (by simp [h.1]), if_neg h.2]
  rfl

theorem condense_append_of_bare {t : Text} (h : ∀ c ∈ t, Bare c) (s : Text) :
    condense (t ++ s) = t ++ condense s := by
  induction t with
  | nil => rfl
  | cons c t ih =>
    rw [List.forall_mem_cons] at h
    rw [List.cons_append, condense_cons_of_bare h.1, ih h.2]
    rfl

theorem bare_of_all {t : Text} (h : t.all (Bare ·)) : ∀ c ∈ t, Bare c :=
  fun c hc => of_decide_eq_true (List.all_eq_true.1 h c hc)

theorem condense_word {t : Text} (h : t.all (Bare ·)) (s : Text) :
    condense (t ++ s) = t ++ condense s :=
  condense_append_of_bare (bare_of_all h) s

theorem condenseFrom_inside_cons {c : Char} (hq : c ≠ '"') (hb : c ≠ '\\') (s : Text) :
    condenseFrom .inside (c :: s) = c :: condenseFrom .inside s := by
  rw [condenseFrom, if_neg hq, if_neg hb]

theorem ne_of_digitChar : ∀ n : Fin 16, Nat.digitChar n ≠ '"' ∧ Nat.digitChar n ≠ '\\' := by
  decide

/-- A written character of a string does not end the string. -/
theorem condenseFrom_literalChar (c : Char) (s : Text) :
    condenseFrom .inside (literalChar c ++ s) = literalChar c ++ condenseFrom .inside s := by
  unfold literalChar
  cases he : escapeLetter? c with
  | some e => rfl
  | none =>
    by_cases hc : isControl c
    · have hn : c.toNat < 32 := by simpa [isControl] using hc
      obtain ⟨hq, hb⟩ := ne_of_digitChar ⟨c.toNat / 16, by omega⟩
      obtain ⟨hq', hb'⟩ := ne_of_digitChar ⟨c.toNat % 16, by omega⟩
      simp only [hc, if_true, List.cons_append, List.nil_append]
      show '\\' :: 'u' :: '0' :: '0' :: condenseFrom .inside (_ :: _ :: s) = _
      rw [condenseFrom_inside_cons hq hb, condenseFrom_inside_cons hq' hb']
    · obtain ⟨hq, hb⟩ := ne_of_escapeLetter?_eq_none he
      simp only [hc, Bool.false_eq_true, if_false, List.cons_append, List.nil_append]
      exact condenseFrom_inside_cons hq hb s

theorem condense_literal (t s : Text) : condense (literal t ++ s) = literal t ++ condense s := by
  have hi : condenseFrom .inside (t.flatMap literalChar ++ '"' :: s) =
      t.flatMap literalChar ++ '"' :: condense s := by
    induction t with
    | nil => rfl
    | cons c t ih =>
      rw [List.flatMap_cons, List.append_assoc, condenseFrom_literalChar, ih, List.append_assoc]
  rw [literal_append, literal_append, ← hi]
  rfl

/-! ## Numbers -/

theorem bare_of_isDigit {c : Char} (h : c.isDigit) : Bare c := by
  refine ⟨not_isSpace_of_isDigit h, ?_⟩
  rintro rfl
  simp at h

theorem bare_of_mem_ofNat {n : Nat} : ∀ c ∈ Text.ofNat n, Bare c :=
  fun _ h => bare_of_isDigit (isDigit_of_mem_ofNat h)

theorem bare_of_mem_ofInt {n : Int} : ∀ c ∈ Text.ofInt n, Bare c := by
  cases n with
  | ofNat n => exact bare_of_mem_ofNat
  | negSucc n => exact List.forall_mem_cons.2 ⟨by decide, bare_of_mem_ofNat⟩

theorem bare_of_mem_decimal (layout : Decimal.Layout) (d : Decimal) :
    ∀ c ∈ layout.text d, Bare c := by
  have hz (n : Nat) : ∀ c ∈ List.replicate n '0', Bare c := by
    intro c hc
    rw [List.eq_of_mem_replicate hc]
    decide
  have hd := bare_of_mem_ofNat (n := d.digits)
  have ht (n : Nat) : ∀ c ∈ (Text.ofNat d.digits).take n, Bare c :=
    fun c hc => hd c (List.mem_of_mem_take hc)
  have hr (n : Nat) : ∀ c ∈ (Text.ofNat d.digits).drop n, Bare c :=
    fun c hc => hd c (List.mem_of_mem_drop hc)
  have hp : Bare '.' := by decide
  unfold Decimal.Layout.text
  dsimp only
  split
  · split
    · exact List.forall_mem_append.2 ⟨List.forall_mem_append.2 ⟨hd, hz _⟩,
        bare_of_all (by decide)⟩
    split
    · exact List.forall_mem_append.2 ⟨ht _, List.forall_mem_cons.2 ⟨hp, hr _⟩⟩
    · exact List.forall_mem_append.2
        ⟨List.forall_mem_append.2 ⟨bare_of_all (by decide), hz _⟩, hd⟩
  · refine List.forall_mem_append.2 ⟨List.forall_mem_append.2
      ⟨List.forall_mem_append.2 ⟨ht _, ?_⟩, ?_⟩, bare_of_mem_ofNat⟩
    · split
      · exact List.forall_mem_nil _
      · exact List.forall_mem_cons.2 ⟨hp, hr _⟩
    · split <;> exact bare_of_all (by decide)

theorem bare_of_mem_number (x : Number) : ∀ c ∈ x.text, Bare c := by
  cases x with
  | integer n => exact bare_of_mem_ofInt
  | float x =>
    refine List.forall_mem_append.2 ⟨?_, bare_of_mem_decimal _ _⟩
    split
    · exact bare_of_all (by decide)
    · exact List.forall_mem_nil _

/-! ## Values -/

section
variable {layout : Layout}

mutual

/-- A value that is laid out in any way, without the space between its tokens, is the compact text
of the value. -/
theorem condense_write (hl : layout.Blank) (depth outer : Nat) :
    (v : Json) → (s : Text) →
      condense (write layout depth v ++ s) = write .compact outer v ++ condense s
  | .null, s => by
    rw [write, write]
    exact condense_word (by decide) s
  | .flag true, s => by
    rw [write, write]
    exact condense_word (by decide) s
  | .flag false, s => by
    rw [write, write]
    exact condense_word (by decide) s
  | .number x, s => by
    rw [write, write]
    exact condense_append_of_bare (bare_of_mem_number x) s
  | .text t, s => by
    rw [write, write]
    exact condense_literal t s
  | .array [], s => by
    rw [write, write]
    exact condense_word (by decide) s
  | .array (item :: items), s => by
    rw [write, write]
    simp only [List.cons_append, List.append_assoc, List.nil_append]
    rw [condense_cons_of_bare (by decide), condense_append_of_space (hl.newline _),
      condense_write hl (depth + 1) (outer + 1) item,
      condense_writeItems hl (depth + 1) (outer + 1) items, condense_append_of_space (hl.newline _),
      condense_cons_of_bare (by decide)]
    rfl
  | .object [], s => by
    rw [write, write]
    exact condense_word (by decide) s
  | .object ((key, v) :: members), s => by
    rw [write, write]
    simp only [List.cons_append, List.append_assoc, List.nil_append]
    rw [condense_cons_of_bare (by decide), condense_append_of_space (hl.newline _),
      condense_literal, condense_cons_of_bare (by decide), condense_append_of_space hl.gap,
      condense_write hl (depth + 1) (outer + 1) v,
      condense_writeMembers hl (depth + 1) (outer + 1) members,
      condense_append_of_space (hl.newline _), condense_cons_of_bare (by decide)]
    rfl

theorem condense_writeItems (hl : layout.Blank) (depth outer : Nat) :
    (items : List Json) → (s : Text) →
      condense (writeItems layout depth items ++ s) = writeItems .compact outer items ++ condense s
  | [], s => rfl
  | item :: items, s => by
    rw [writeItems, writeItems]
    simp only [List.cons_append, List.append_assoc]
    rw [condense_cons_of_bare (by decide), condense_append_of_space (hl.newline _),
      condense_write hl depth outer item, condense_writeItems hl depth outer items]
    rfl

theorem condense_writeMembers (hl : layout.Blank) (depth outer : Nat) :
    (members : Members) → (s : Text) →
      condense (writeMembers layout depth members ++ s) =
        writeMembers .compact outer members ++ condense s
  | [], s => rfl
  | (key, v) :: members, s => by
    rw [writeMembers, writeMembers]
    simp only [List.cons_append, List.append_assoc]
    rw [condense_cons_of_bare (by decide), condense_append_of_space (hl.newline _),
      condense_literal, condense_cons_of_bare (by decide), condense_append_of_space hl.gap,
      condense_write hl depth outer v, condense_writeMembers hl depth outer members]
    rfl

end

end

/-- Both texts of a value differ by the space between their tokens only. -/
theorem condense_print (v : Json) :
    ∀ print ∈ [compact, pretty], condense (print v) = v.compact := by
  have hw {layout : Layout} (hl : layout.Blank) : condense (write layout 0 v) = v.compact := by
    have h := condense_write hl 0 0 v []
    rwa [List.append_nil, condense_nil, List.append_nil] at h
  intro print hprint
  rw [List.mem_cons, List.mem_singleton] at hprint
  rcases hprint with rfl | rfl
  · exact hw Layout.blank_compact
  · exact hw Layout.blank_pretty

end Json

end PromptWeave
