import Mathlib.Data.List.Induction
import PromptWeave.Proofs.Json.Members

/-! Rows and the members that fill them.

Each member of an object puts a value into a row that had none at its field. From an empty row, some
members lead to a row just if they are those that spell it, in any order (`steps_puts_iff`). So a
record that refuses all other members is read from an object whose members, sorted as the fields
are, spell a complete row (`Record.readObject_eq_ok_iff`). -/

namespace PromptWeave

namespace Json

/-! ## Languages of fields -/

/-- For each field, which texts stand for which values. -/
def Languages : List Field → Type
  | [] => Unit
  | f :: fs => (Text → f.type → Prop) × Languages fs

/-- The shapes of the fields keep to their languages. -/
def Languages.Kept : (fields : List Field) → Languages fields → Prop
  | [], () => True
  | f :: fs, (L, Ls) => f.shape.KeepsTo L ∧ Languages.Kept fs Ls

/-- The shapes of the fields cover their languages. -/
def Languages.Covered (depth : Nat) : (fields : List Field) → Languages fields → Prop
  | [], () => True
  | f :: fs, (L, Ls) => f.shape.Covers depth L ∧ Languages.Covered depth fs Ls

/-! ## Putting a value into a row -/

/-- A row gets the value of a member at the field with the key of the member, where it had none. -/
inductive PartialRow.Puts : {fields : List Field} → Languages fields → PartialRow fields →
    Text × Text → PartialRow fields → Prop
  | here {f : Field} {fs : List Field} {L : Text → f.type → Prop} {Ls : Languages fs}
      {text : Text} {v : f.type} {row : PartialRow fs} : L text v →
      @Puts (f :: fs) (L, Ls) (none, row) (f.key, text) (some v, row)
  | there {f : Field} {fs : List Field} {L : Text → f.type → Prop} {Ls : Languages fs}
      {m : Text × Text} {v : Option f.type} {row row' : PartialRow fs} : f.key ≠ m.1 →
      Puts Ls row m row' → @Puts (f :: fs) (L, Ls) (v, row) m (v, row')

theorem exists_of_readColon {s rest : Text} (h : readColon s = .ok rest) :
    ∃ b, Spaces b ∧ s = b ++ ':' :: rest := by
  obtain ⟨b, hb, he⟩ := exists_skipSpace s
  unfold readColon at h
  split at h
  · cases h
  rename_i c s' hc
  split at h
  · rename_i hcolon
    cases h
    exact ⟨b, hb, by rw [he, hc, hcolon]⟩
  · cases h

theorem readColon_spaces {b : Text} (hb : Spaces b) (s : Text) :
    readColon (b ++ ':' :: s) = .ok s := by
  simp [readColon, skipSpace_spaces hb (c := ':') (by decide)]

theorem PartialRow.puts_of_readField {fields : List Field} {Ls : Languages fields}
    (hL : Languages.Kept fields Ls) {depth : Nat} {key s rest : Text}
    {row row' : PartialRow fields}
    (h : row.readField depth key s fields = some (.ok (row', rest))) :
    ∃ b c value, Spaces b ∧ Spaces c ∧ Puts Ls row (key, value) row' ∧
      s = b ++ ':' :: (c ++ (value ++ rest)) := by
  induction fields with
  | nil => cases h
  | cons f fs ih =>
    obtain ⟨v, row⟩ := row
    obtain ⟨L, Ls⟩ := Ls
    rw [PartialRow.readField] at h
    split at h
    · rename_i hk
      subst hk
      replace h := Option.some.inj h
      split at h
      · cases h
      rename_i hv
      obtain rfl : v = none := by simpa using hv
      obtain ⟨s₁, h₁, h⟩ := exists_of_bind_eq_ok h
      obtain ⟨⟨w, s₂⟩, h₂, h⟩ := exists_of_bind_eq_ok h
      cases h
      obtain ⟨b, hb, rfl⟩ := exists_of_readColon h₁
      obtain ⟨c, value, hc, hw, rfl⟩ := hL.1 h₂
      exact ⟨b, c, value, hb, hc, .here hw, rfl⟩
    · rename_i hk
      obtain ⟨r, hr, h⟩ := Option.map_eq_some_iff.1 h
      obtain ⟨⟨row₁, s₁⟩, h₁, h⟩ := exists_of_map_eq_ok h
      cases h
      obtain ⟨b, c, value, hb, hc, hp, rfl⟩ := ih hL.2 (hr.trans (congrArg some h₁))
      exact ⟨b, c, value, hb, hc, .there hk hp, rfl⟩

theorem PartialRow.readField_of_puts {fields : List Field} {Ls : Languages fields} {depth : Nat}
    (hL : Languages.Covered depth fields Ls) {row row' : PartialRow fields} {m : Text × Text}
    (h : Puts Ls row m row') {b c rest : Text} (hb : Spaces b) (hc : Spaces c) (hr : Stops rest) :
    row.readField depth m.1 (b ++ ':' :: (c ++ (m.2 ++ rest))) fields =
      some (.ok (row', rest)) := by
  induction h with
  | here hv =>
    simp [PartialRow.readField, readColon_spaces hb, hL.1 hc hv hr, bind, Except.bind, pure,
      Except.pure]
  | there hk _ ih => simp [PartialRow.readField, hk, ih hL.2, Except.map]

/-! ## The members of a row -/

/-- The members that spell the values of a row, in the order of the fields. -/
inductive PartialRow.Spelled : {fields : List Field} → Languages fields → PartialRow fields →
    List (Text × Text) → Prop
  | nil : @Spelled [] () () []
  | skip {f : Field} {fs : List Field} {L : Text → f.type → Prop} {Ls : Languages fs}
      {row : PartialRow fs} {ms : List (Text × Text)} : Spelled Ls row ms →
      @Spelled (f :: fs) (L, Ls) (none, row) ms
  | cons {f : Field} {fs : List Field} {L : Text → f.type → Prop} {Ls : Languages fs}
      {text : Text} {v : f.type} {row : PartialRow fs} {ms : List (Text × Text)} :
      L text v → Spelled Ls row ms →
      @Spelled (f :: fs) (L, Ls) (some v, row) ((f.key, text) :: ms)

section
variable {fields : List Field} {Ls : Languages fields}

theorem PartialRow.spelled_empty : (fields : List Field) → (Ls : Languages fields) →
    Spelled Ls (PartialRow.empty fields) []
  | [], () => .nil
  | _ :: fs, (_, Ls) => .skip (spelled_empty fs Ls)

theorem PartialRow.Spelled.eq_empty {row : PartialRow fields} (h : Spelled Ls row []) :
    row = PartialRow.empty fields := by
  generalize hms : [] = ms at h
  induction h with
  | nil => rfl
  | skip _ ih => rw [ih hms]; rfl
  | cons _ _ _ => cases hms

theorem PartialRow.Spelled.key_mem {row : PartialRow fields} {ms : List (Text × Text)}
    (h : Spelled Ls row ms) {m : Text × Text} (hm : m ∈ ms) : m.1 ∈ fields.map Field.key := by
  induction h with
  | nil => cases hm
  | skip _ ih => exact List.mem_cons_of_mem _ (ih hm)
  | cons _ _ ih =>
    rcases List.mem_cons.1 hm with rfl | hm
    · exact List.mem_cons_self
    · exact List.mem_cons_of_mem _ (ih hm)

/-- A member that is put into a row joins those that spell it. -/
theorem PartialRow.Puts.spelled {row row' : PartialRow fields} {m : Text × Text}
    (h : Puts Ls row m row') {ms : List (Text × Text)} (hs : Spelled Ls row ms) :
    ∃ ms', Spelled Ls row' ms' ∧ ms'.Perm (m :: ms) := by
  induction h generalizing ms with
  | here hv =>
    obtain - | hs := hs
    exact ⟨_, .cons hv hs, .refl _⟩
  | there _ _ ih =>
    obtain - | hs | ⟨hv, hs⟩ := hs
    · obtain ⟨ms', hs', hp⟩ := ih hs
      exact ⟨ms', .skip hs', hp⟩
    · obtain ⟨ms', hs', hp⟩ := ih hs
      exact ⟨_, .cons hv hs', (hp.cons _).trans (.swap ..)⟩

/-- Any one of the members that spell a row can have been put into it last. -/
theorem PartialRow.Spelled.exists_puts {row : PartialRow fields} {ms : List (Text × Text)}
    (hs : Spelled Ls row ms) (hn : (fields.map Field.key).Nodup)
    {m : Text × Text} (hm : m ∈ ms) :
    ∃ row₀ ms₀,
      Puts Ls row₀ m row ∧ Spelled Ls row₀ ms₀ ∧ ms.Perm (m :: ms₀) := by
  induction hs with
  | nil => cases hm
  | skip hs ih =>
    rw [List.map_cons, List.nodup_cons] at hn
    obtain ⟨row₀, ms₀, hp, hs₀, hperm⟩ := ih hn.2 hm
    exact ⟨(none, row₀), ms₀, .there (fun h => hn.1 (h ▸ hs.key_mem hm)) hp,
      .skip hs₀, hperm⟩
  | cons hv hs ih =>
    rw [List.map_cons, List.nodup_cons] at hn
    rcases List.mem_cons.1 hm with rfl | hm
    · exact ⟨(none, _), _, .here hv, .skip hs, .refl _⟩
    -- The key of a member further back is not that of the first field.
    · obtain ⟨row₀, ms₀, hp, hs₀, hperm⟩ := ih hn.2 hm
      exact ⟨(some _, row₀), _, .there (fun h => hn.1 (h ▸ hs.key_mem hm)) hp, .cons hv hs₀,
        (hperm.cons _).trans (.swap ..)⟩

theorem spelled_of_steps {row row' : PartialRow fields} {ms ms₀ : List (Text × Text)}
    (h : Steps (PartialRow.Puts Ls) row ms row') (hs : PartialRow.Spelled Ls row ms₀) :
    ∃ ms', PartialRow.Spelled Ls row' ms' ∧ ms'.Perm (ms ++ ms₀) := by
  induction h generalizing ms₀ with
  | nil => exact ⟨ms₀, hs, .refl _⟩
  | cons hp _ ih =>
    obtain ⟨ms₁, hs₁, hp₁⟩ := hp.spelled hs
    obtain ⟨ms', hs', hp'⟩ := ih hs₁
    exact ⟨ms', hs', (hp'.trans (hp₁.append_left _)).trans List.perm_middle⟩

theorem steps_of_spelled (hn : (fields.map Field.key).Nodup) {row : PartialRow fields}
    {ms ms' : List (Text × Text)} (hs : PartialRow.Spelled Ls row ms') (hp : ms'.Perm ms) :
    Steps (PartialRow.Puts Ls) (PartialRow.empty fields) ms row := by
  -- The row is emptied again from the last member on.
  induction ms using List.reverseRecOn generalizing row ms' with
  | nil =>
    rw [hp.eq_nil] at hs
    rw [hs.eq_empty]
    exact .nil _
  | append_singleton ms m ih =>
    have hm : m ∈ ms' := hp.mem_iff.2 (by simp)
    obtain ⟨row₀, ms₀, hput, hs₀, hp₀⟩ := hs.exists_puts hn hm
    have hp' : (m :: ms₀).Perm (m :: ms) :=
      (hp₀.symm.trans hp).trans (List.perm_append_singleton ..)
    exact (ih hs₀ hp'.cons_inv).append (.cons hput (.nil _))

/-- Members lead from the empty row to another just if they are those that spell it. -/
theorem steps_puts_iff (hn : (fields.map Field.key).Nodup) {row : PartialRow fields}
    {ms : List (Text × Text)} :
    Steps (PartialRow.Puts Ls) (PartialRow.empty fields) ms row ↔
      ∃ ms', PartialRow.Spelled Ls row ms' ∧ ms'.Perm ms := by
  constructor
  · intro h
    obtain ⟨ms', hs, hp⟩ := spelled_of_steps h (PartialRow.spelled_empty fields Ls)
    exact ⟨ms', hs, by simpa using hp⟩
  · rintro ⟨ms', hs, hp⟩
    exact steps_of_spelled hn hs hp

end

/-! ## Records -/

section
variable {fields : List Field} {Ls : Languages fields}

theorem readFields_sound (hL : Languages.Kept fields Ls) {depth : Nat} {s rest : Text}
    {row : PartialRow fields} {others : Members}
    (h : readFields fields .refused depth s = .ok ((row, others), rest)) :
    ∃ t ms, IsInside ms t ∧ Steps (PartialRow.Puts Ls) (PartialRow.empty fields) ms row ∧
      s = t ++ '}' :: rest := by
  let step (a : PartialRow fields × Members) (m : Text × Text)
      (a' : PartialRow fields × Members) :=
    PartialRow.Puts Ls a.1 m a'.1 ∧ a'.2 = a.2
  have hs : ∃ t ms, IsInside ms t ∧
      Steps step (PartialRow.empty fields, []) ms (row, others) ∧ s = t ++ '}' :: rest := by
    refine readMembers_sound (fun a a' key s rest h => ?_) h
    obtain ⟨row₀, others₀⟩ := a
    dsimp only at h
    split at h
    · rename_i r hr
      obtain ⟨⟨row₁, s₁⟩, rfl, h⟩ := exists_of_map_eq_ok h
      cases h
      obtain ⟨b, c, value, hb, hc, hp, he⟩ := PartialRow.puts_of_readField hL hr
      exact ⟨b, c, value, hb, hc, ⟨hp, rfl⟩, he⟩
    · cases h
  obtain ⟨t, ms, ht, hs, rfl⟩ := hs
  exact ⟨t, ms, ht, (steps_fst_iff.1 hs).1, rfl⟩

theorem readFields_complete {depth : Nat} (hL : Languages.Covered depth fields Ls)
    (unknown : Unknown) {t : Text} {ms : List (Text × Text)} (ht : IsInside ms t)
    {row : PartialRow fields}
    (hs : Steps (PartialRow.Puts Ls) (PartialRow.empty fields) ms row) (rest : Text) :
    readFields fields unknown depth (t ++ '}' :: rest) = .ok ((row, []), rest) := by
  let step (a : PartialRow fields × Members) (m : Text × Text)
      (a' : PartialRow fields × Members) :=
    PartialRow.Puts Ls a.1 m a'.1 ∧ a'.2 = a.2
  have hs : Steps step (PartialRow.empty fields, []) ms (row, []) := steps_fst_iff.2 ⟨hs, rfl⟩
  refine readMembers_complete (fun a a' key b c value rest h hb hc hr => ?_) ht hs rest (by simp)
  obtain ⟨row, others⟩ := a
  obtain ⟨row', others'⟩ := a'
  obtain ⟨hp, rfl⟩ := h
  simp [PartialRow.readField_of_puts hL hp hb hc hr, Except.map]

end

/-- A record that refuses other members is read from the members that spell a complete row. -/
theorem Record.readObject_eq_ok_iff {α : Type} (record : Record α)
    (hu : record.unknown = .refused)
    (hn : (record.fields.map Field.key).Nodup) {Ls : Languages record.fields} {depth : Nat}
    (hk : Languages.Kept record.fields Ls) (hc : Languages.Covered depth record.fields Ls)
    {s rest : Text} {a : α} :
    record.readObject depth s = .ok (a, rest) ↔
      ∃ t ms ms' row, IsInside ms t ∧ PartialRow.Spelled Ls row ms' ∧ ms'.Perm ms ∧
        record.complete row = .ok a ∧ s = t ++ '}' :: rest := by
  constructor
  · intro h
    obtain ⟨⟨⟨row, others⟩, s'⟩, hf, h⟩ := exists_of_bind_eq_ok h
    obtain ⟨a', ha, h⟩ := exists_of_bind_eq_ok h
    cases h
    rw [hu] at hf
    obtain ⟨t, ms, ht, hs, rfl⟩ := readFields_sound hk hf
    obtain ⟨ms', hs, hp⟩ := (steps_puts_iff hn).1 hs
    exact ⟨t, ms, ms', row, ht, hs, hp, ha, rfl⟩
  · rintro ⟨t, ms, ms', row, ht, hs, hp, ha, rfl⟩
    have hf := readFields_complete hc record.unknown ht
      ((steps_puts_iff hn).2 ⟨ms', hs, hp⟩) rest
    simp [readObject, hf, ha, bind, Except.bind, pure, Except.pure]

end Json

end PromptWeave
