import PromptWeave.Proofs.Json.Lists
import PromptWeave.Proofs.Json.Sorted

/-! Values of any kind.

A value that was read has its members sorted at every depth, its integers fit into 64 bits, and no
more brackets are open in it than were allowed (`within_of_readValue`). Such a value, if it holds no
floating-point number, is read back as it was written (`any_readsBack`). -/

namespace PromptWeave

namespace Json

/-! ## What is read -/

/-- The values that are read where `depth` brackets may be opened. -/
inductive Within : Nat → Json → Prop
  | null {depth : Nat} : Within depth .null
  | flag {depth : Nat} (b : Bool) : Within depth (.flag b)
  | integer {depth : Nat} {n : Int} : leastSigned ≤ n → n ≤ greatestWord →
      Within depth (.number (.integer n))
  | float {depth : Nat} (x : Binary64) : Within depth (.number (.float x))
  | text {depth : Nat} (t : Text) : Within depth (.text t)
  | array {depth : Nat} {items : List Json} : (∀ v ∈ items, Within depth v) →
      Within (depth + 1) (.array items)
  | object {depth : Nat} {members : Members} : members.Sorted →
      (∀ m ∈ members, Within depth m.2) → Within (depth + 1) (.object members)

theorem bounds_of_integer? {l : NumberLiteral} {n : Int} (h : l.integer? = some n) :
    leastSigned ≤ n ∧ n ≤ greatestWord := by
  simp only [NumberLiteral.integer?] at h
  split at h
  · cases h
  split at h
  · split at h
    · rename_i hn
      cases h
      exact ⟨hn.2, by omega⟩
    · cases h
  · split at h
    · rename_i hn
      cases h
      exact ⟨Int.le_trans (by decide) (Int.natCast_nonneg _), Int.ofNat_le.2 hn⟩
    · cases h

theorem within_of_readNumber {depth : Nat} {s rest : Text} {x : Number}
    (h : readNumber s = .ok (x, rest)) : Within depth (.number x) := by
  obtain ⟨⟨l, s'⟩, -, hn⟩ := exists_of_bind_eq_ok h
  dsimp only at hn
  split at hn
  · rename_i y hy
    cases hn
    unfold NumberLiteral.number? at hy
    split at hy
    · rename_i n hi
      cases hy
      obtain ⟨hl, hh⟩ := bounds_of_integer? hi
      exact .integer hl hh
    · obtain ⟨y, -, rfl⟩ := Option.map_eq_some_iff.1 hy
      exact .float y
  · cases hn

theorem within_of_readScalar {depth : Nat} {c : Char} {s rest : Text} {v : Json}
    (h : readScalar c s = .ok (v, rest)) : Within depth v := by
  unfold readScalar at h
  repeat' split at h
  · obtain ⟨s', -, he⟩ := exists_of_map_eq_ok h
    cases he
    exact .null
  · obtain ⟨s', -, he⟩ := exists_of_map_eq_ok h
    cases he
    exact .flag true
  · obtain ⟨s', -, he⟩ := exists_of_map_eq_ok h
    cases he
    exact .flag false
  · obtain ⟨⟨t, s'⟩, -, he⟩ := exists_of_map_eq_ok h
    cases he
    exact .text t
  · obtain ⟨⟨x, s'⟩, hx, he⟩ := exists_of_map_eq_ok h
    cases he
    exact within_of_readNumber hx
  · cases h

/-- What each member keeps, all members of an object keep. -/
theorem readMembers_keeps {α : Type} {read : α → Text → Text → Except Fault (α × Text)}
    {P : α → Prop}
    (hr : ∀ ⦃a a' : α⦄ ⦃key s rest : Text⦄,
      P a → read a key s = .ok (a', rest) → P a')
    {fuel : Nat} {first : Bool} {a a' : α} {s rest : Text} (ha : P a)
    (h : readMembers read fuel first a s = .ok (a', rest)) : P a' := by
  induction fuel generalizing first a s with
  | zero => cases h
  | succ fuel ih =>
    obtain ⟨next, -, h⟩ := exists_of_bind_eq_ok h
    cases next with
    | inr s₁ =>
      cases h
      exact ha
    | inl s₁ =>
      obtain ⟨⟨key, s₂⟩, -, h⟩ := exists_of_bind_eq_ok h
      obtain ⟨⟨a₁, s₃⟩, hm, h⟩ := exists_of_bind_eq_ok h
      exact ih (hr ha hm) h

theorem exists_of_readMember {read : Text → Except Fault (Json × Text)}
    {members members' : Members}
    {key s rest : Text} (h : readMember read members key s = .ok (members', rest)) :
    ∃ s' v, read s' = .ok (v, rest) ∧ members' = members.insert key v := by
  obtain ⟨s', -, h⟩ := exists_of_bind_eq_ok h
  obtain ⟨⟨v, s''⟩, hv, h⟩ := exists_of_bind_eq_ok h
  cases h
  exact ⟨s', v, hv, rfl⟩

/-- Members that were read with values of a kind. -/
structure Members.Holds (P : Json → Prop) (members : Members) : Prop where
  sorted : members.Sorted
  values : ∀ m ∈ members, P m.2

theorem Members.Holds.insert {P : Json → Prop} {members : Members} (h : members.Holds P)
    (key : Text) {v : Json} (hv : P v) : (members.insert key v).Holds P where
  sorted := h.sorted.insert key v
  values m hm := by
    rcases mem_of_mem_insert hm with rfl | hm
    · exact hv
    · exact h.values m hm

/-- A value that was read has sorted members, integers of 64 bits and not too many open brackets. -/
theorem within_of_readValue {depth : Nat} {s rest : Text} {v : Json}
    (h : readValue depth s = .ok (v, rest)) : Within depth v := by
  induction depth generalizing s rest v with
  | zero =>
    unfold readValue readValueWith at h
    repeat' split at h
    all_goals first | exact within_of_readScalar h | cases h
  | succ depth ih =>
    unfold readValue readValueWith at h
    repeat' split at h
    · cases h
    · obtain ⟨⟨items, s'⟩, hi, he⟩ := exists_of_map_eq_ok h
      cases he
      exact .array (forall_of_readItems (fun _ _ _ hv => ih hv) hi)
    · obtain ⟨⟨members, s'⟩, hm, he⟩ := exists_of_map_eq_ok h
      cases he
      have hm : members.Holds (Within depth) := by
        refine readMembers_keeps (fun a a' key s rest ha hr => ?_)
          ⟨.nil, List.forall_mem_nil _⟩ hm
        obtain ⟨s', v, hv, rfl⟩ := exists_of_readMember hr
        exact ha.insert key (ih hv)
      exact .object hm.sorted hm.values
    · exact within_of_readScalar h

/-! ## Values without floating-point numbers -/

mutual

/-- No number in the value is a floating-point number. -/
def floatless : Json → Bool
  | .number (.float _) => false
  | .array items => floatlessItems items
  | .object members => floatlessMembers members
  | _ => true

def floatlessItems : List Json → Bool
  | [] => true
  | v :: items => v.floatless && floatlessItems items

def floatlessMembers : List (Text × Json) → Bool
  | [] => true
  | (_, v) :: members => v.floatless && floatlessMembers members

end

theorem floatless_array {items : List Json} :
    (array items).floatless ↔ ∀ v ∈ items, v.floatless := by
  rw [floatless]
  induction items with
  | nil => simp [floatlessItems]
  | cons v items ih => simp [floatlessItems, ih]

theorem floatless_object {members : Members} :
    (object members).floatless ↔ ∀ m ∈ members, m.2.floatless := by
  rw [floatless]
  induction members with
  | nil => simp [floatlessMembers]
  | cons m members ih =>
    obtain ⟨key, v⟩ := m
    simp [floatlessMembers, ih]

/-! ## What is written -/

/-- Values of any kind are written as they are. -/
def Shape.any : Shape Json := ⟨readValue, id⟩

theorem exists_ofInt_eq_cons (n : Int) :
    ∃ c t, Text.ofInt n = c :: t ∧ (c = '-' ∨ c.isDigit) := by
  cases n with
  | ofNat n =>
    obtain ⟨c, t, h, hc⟩ := exists_ofNat_eq_cons n
    exact ⟨c, t, h, .inr hc⟩
  | negSucc n => exact ⟨'-', _, rfl, .inl rfl⟩

section
variable {c d : Char}

theorem ne_of_sign_or_digit (h : c = '-' ∨ c.isDigit) (hd : d ≠ '-' ∧ d.isDigit = false) :
    c ≠ d := by
  rintro rfl
  exact h.elim hd.1 (by simp [hd.2])

theorem not_isSpace_of_sign_or_digit (h : c = '-' ∨ c.isDigit) : isSpace c = false := by
  rcases h with rfl | h
  · rfl
  · exact not_isSpace_of_isDigit h

end

theorem opens_of_floatless {v : Json} (h : v.floatless) (layout : Layout) (outer : Nat) :
    Opens (write layout outer v) := by
  have hc {c : Char} (hs : isSpace c = false) (hb : c ≠ ']') (t : Text) : Opens (c :: t) :=
    ⟨c, t, rfl, hs, hb⟩
  cases v with
  | null => exact hc (by decide) (by decide) _
  | flag b => cases b <;> exact hc (by decide) (by decide) _
  | number x =>
    cases x with
    | float x => cases h
    | integer n =>
      obtain ⟨c, t, ht, hd⟩ := exists_ofInt_eq_cons n
      rw [write, Number.text, ht]
      exact hc (not_isSpace_of_sign_or_digit hd) (ne_of_sign_or_digit hd (by decide)) _
  | text t => exact hc (by decide) (by decide) _
  | array items =>
    cases items <;> rw [write]
    all_goals exact hc (by decide) (by decide) _
  | object members =>
    rcases members with _ | ⟨⟨key, v⟩, members⟩ <;> rw [write]
    all_goals exact hc (by decide) (by decide) _

/-! ### Objects -/

/-- A member puts a value that its text is read as among the members of an object. -/
def Inserts (depth : Nat) (members : Members) (m : Text × Text) (members' : Members) : Prop :=
  ∃ v, (∀ ⦃space rest : Text⦄, Spaces space → Stops rest →
    readValue depth (space ++ (m.2 ++ rest)) = .ok (v, rest)) ∧ members' = members.insert m.1 v

theorem performs_readMember (depth : Nat) :
    Performs (readMember (readValue depth)) (Inserts depth) := by
  rintro members _ key b c value rest ⟨v, hv, rfl⟩ hb hc hr
  simp [readMember, readColon_spaces hb, hv hc hr, bind, Except.bind, pure, Except.pure]

theorem Members.Sorted.append_cons {members after : Members} {m : Text × Json}
    (h : Sorted (members ++ m :: after)) : ∀ n ∈ members, n.1 < m.1 :=
  fun n hn => (List.pairwise_append.1 h).2.2 n hn m List.mem_cons_self

/-- Sorted members come in one after the other. -/
theorem steps_inserts {layout : Layout} (hl : layout.Blank) {need depth : Nat} (hd : need ≤ depth)
    (outer : Nat) (before : Members) {members : Members}
    (hr : ∀ m ∈ members, Shape.any.ReadsBack need m.2)
    (hs : Members.Sorted (before ++ members)) :
    Steps (Inserts depth) before (members.map (memberText layout outer)) (before ++ members) := by
  induction members generalizing before with
  | nil =>
    rw [List.append_nil]
    exact .nil _
  | cons m members ih =>
    rw [List.forall_mem_cons] at hr
    have he : before ++ m :: members = before ++ [m] ++ members := by simp
    refine .cons ⟨m.2, fun space rest hsp hst => ?_, ?_⟩ (he ▸ ih _ hr.2 (he ▸ hs))
    · exact hr.1 layout hl depth outer space rest hd (spaces_iff.1 hsp) hst
    · exact (Members.insert_eq_append hs.append_cons m.2).symm

theorem word_append (letters rest : Text) : word letters (letters ++ rest) = .ok rest := by
  induction letters with
  | nil => rw [word.eq_def]; rfl
  | cons c letters ih => simp [word, ih]

theorem literal_append (t rest : Text) :
    literal t ++ rest = '"' :: (t.flatMap literalChar ++ '"' :: rest) := by
  simp [literal]

section
variable {c : Char} {t : Text}

theorem readValue_scalar (hc : isSpace c = false) (hl : c ≠ '[') (ho : c ≠ '{') (depth : Nat)
    {space : Text} (hs : ∀ c ∈ space, isSpace c) (t : Text) :
    readValue depth (space ++ c :: t) = readScalar c t := by
  cases depth <;> simp [readValue, readValueWith, skipSpace_append_cons hs hc, hl, ho]

theorem readValue_list (depth : Nat) {space : Text} (hs : ∀ c ∈ space, isSpace c)
    (inside : Text) :
    readValue (depth + 1) (space ++ '[' :: inside) =
      (readItems (readValue depth) inside.length true inside).map fun (items, s) =>
        (.array items, s) := by
  simp [readValue, readValueWith, skipSpace_append_cons hs (c := '[') (by decide)]

theorem readValue_object (depth : Nat) {space : Text} (hs : ∀ c ∈ space, isSpace c)
    (inside : Text) :
    readValue (depth + 1) (space ++ '{' :: inside) =
      (readMembers (readMember (readValue depth)) inside.length true [] inside).map
        fun (members, s) => (.object members, s) := by
  simp [readValue, readValueWith, skipSpace_append_cons hs (c := '{') (by decide)]

/-- A value that is neither a list nor an object is read back if its characters are read as it. -/
theorem any_readsBack_scalar {v : Json} (hw : ∀ layout outer, write layout outer v = c :: t)
    (hc : isSpace c = false) (hl : c ≠ '[') (ho : c ≠ '{')
    (hr : ∀ ⦃rest : Text⦄, Stops rest → readScalar c (t ++ rest) = .ok (v, rest))
    (need : Nat) : Shape.any.ReadsBack need v := by
  intro layout _ depth outer space rest _ hs hrest
  have h := readValue_scalar hc hl ho depth hs (t ++ rest)
  rw [hr hrest] at h
  change readValue depth (space ++ (write layout outer v ++ rest)) = _
  rwa [hw, List.cons_append]

theorem readScalar_number (h : c = '-' ∨ c.isDigit) (s : Text) :
    readScalar c s = (readNumber (c :: s)).map fun (n, s) => (.number n, s) := by
  have hn {d : Char} (hd : d ≠ '-' ∧ d.isDigit = false) : c ≠ d := ne_of_sign_or_digit h hd
  unfold readScalar
  rw [if_neg (hn (by decide)), if_neg (hn (by decide)), if_neg (hn (by decide)),
    if_neg (hn (by decide)), if_pos h]

end

/-- A value without floating-point numbers is read back as it was written. -/
theorem any_readsBack {depth : Nat} {v : Json} (h : Within depth v) (hf : v.floatless) :
    Shape.any.ReadsBack depth v := by
  induction h with
  | null =>
    refine any_readsBack_scalar (fun _ _ => rfl) (by decide) (by decide) (by decide) ?_ _
    exact fun rest _ => congrArg (Except.map _) (word_append "ull".toList rest)
  | flag b =>
    cases b with
    | true =>
      refine any_readsBack_scalar (fun _ _ => rfl) (by decide) (by decide) (by decide) ?_ _
      exact fun rest _ => congrArg (Except.map _) (word_append "rue".toList rest)
    | false =>
      refine any_readsBack_scalar (fun _ _ => rfl) (by decide) (by decide) (by decide) ?_ _
      exact fun rest _ => congrArg (Except.map _) (word_append "alse".toList rest)
  | @integer _ n hl hh =>
    obtain ⟨c, t, ht, hc⟩ := exists_ofInt_eq_cons n
    refine any_readsBack_scalar (fun _ _ => by rw [write, Number.text, ht])
      (not_isSpace_of_sign_or_digit hc) (ne_of_sign_or_digit hc (by decide))
      (ne_of_sign_or_digit hc (by decide)) (fun rest hrest => ?_) _
    rw [readScalar_number hc, ← List.cons_append, ← ht, readNumber_ofInt hl hh hrest]
    rfl
  | float x => cases hf
  | text t =>
    refine any_readsBack_scalar (fun _ _ => by rw [write, literal]; rfl) (by decide) (by decide)
      (by decide) (fun rest _ => ?_) _
    have h := readLiteral_append t rest
    rw [← (List.cons.inj (literal_append t rest)).2] at h
    exact congrArg (Except.map _) h
  | @array need items _ ih =>
    -- The bracket is one of those that may be opened, and the items have the others.
    rw [floatless_array] at hf
    intro layout hl depth outer space rest hd hs _
    obtain ⟨depth, rfl⟩ := Nat.exists_eq_succ_of_ne_zero (n := depth) (by omega)
    obtain ⟨inside, hw, hi⟩ := readItems_write hl (Nat.le_of_succ_le_succ hd)
      (fun v hv => ih v hv (hf v hv))
      (fun v hv => opens_of_floatless (hf v hv) layout (outer + 1)) rest
    rw [Shape.any, List.map_id] at hw
    change readItems (readValue depth) inside.length true inside = _ at hi
    change readValue (depth + 1) (space ++ (write layout outer (.array items) ++ rest)) = _
    rw [hw, readValue_list depth hs, hi]
    rfl
  | @object need members hm _ ih =>
    rw [floatless_object] at hf
    intro layout hl depth outer space rest hd hs _
    obtain ⟨depth, rfl⟩ := Nat.exists_eq_succ_of_ne_zero (n := depth) (by omega)
    obtain ⟨inside, hi, hw⟩ := isObject_write hl outer members
    have hsteps := steps_inserts hl (Nat.le_of_succ_le_succ hd) (outer + 1) []
      (fun m hm => ih m hm (hf m hm)) hm
    have hr := readMembers_complete (performs_readMember depth) hi hsteps rest
      (by simp : inside.length < (inside ++ '}' :: rest).length)
    have he : write layout outer (.object members) ++ rest = '{' :: (inside ++ '}' :: rest) := by
      simp [hw]
    change readValue (depth + 1) (space ++ (write layout outer (.object members) ++ rest)) = _
    rw [he, readValue_object depth hs, hr]
    rfl

end Json

end PromptWeave
