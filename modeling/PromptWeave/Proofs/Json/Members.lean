import PromptWeave.Proofs.Json.Recognition

/-! Readers of objects and the object texts that they accept.

A reader that goes through the members of an object changes a state with each of them. If a relation
between states says what it may do on one member (`Obeys`), or what it does (`Performs`), then the
steps of that relation say so for the text of an object (`readMembers_sound`,
`readMembers_complete`). -/

namespace PromptWeave

namespace Json

/-- What a reader takes after a key is a colon and the text of a value, and it goes from one state
to another as `step` allows for that member. -/
def Obeys {α : Type} (read : α → Text → Text → Except Fault (α × Text))
    (step : α → Text × Text → α → Prop) : Prop :=
  ∀ ⦃a a' : α⦄ ⦃key s rest : Text⦄, read a key s = .ok (a', rest) →
    ∃ b c value, Spaces b ∧ Spaces c ∧ step a (key, value) a' ∧
      s = b ++ ':' :: (c ++ (value ++ rest))

/-- A reader goes from one state to another on any member for which `step` allows it. -/
def Performs {α : Type} (read : α → Text → Text → Except Fault (α × Text))
    (step : α → Text × Text → α → Prop) : Prop :=
  ∀ ⦃a a' : α⦄ ⦃key b c value rest : Text⦄, step a (key, value) a' →
    Spaces b → Spaces c →
    Stops rest → read a key (b ++ ':' :: (c ++ (value ++ rest))) = .ok (a', rest)

/-- Steps for members in order. -/
inductive Steps {α : Type} (step : α → Text × Text → α → Prop) :
    α → List (Text × Text) → α → Prop
  | nil (a : α) : Steps step a [] a
  | cons {a b c : α} {m : Text × Text} {ms : List (Text × Text)} : step a m b →
      Steps step b ms c → Steps step a (m :: ms) c

theorem Steps.append {α : Type} {step : α → Text × Text → α → Prop} {a b c : α}
    {ms ms' : List (Text × Text)} (h : Steps step a ms b) (h' : Steps step b ms' c) :
    Steps step a (ms ++ ms') c := by
  induction h with
  | nil => exact h'
  | cons hs _ ih => exact .cons hs (ih h')

theorem Steps.map {α β : Type} {step : α → Text × Text → α → Prop}
    {step' : β → Text × Text → β → Prop} (f : α → β) {a a' : α}
    {ms : List (Text × Text)} (hs : Steps step a ms a')
    (h : ∀ m ∈ ms, ∀ ⦃a a' : α⦄, step a m a' → step' (f a) m (f a')) :
    Steps step' (f a) ms (f a') := by
  induction hs with
  | nil => exact .nil _
  | cons hm _ ih =>
    rw [List.forall_mem_cons] at h
    exact .cons (h.1 hm) (ih h.2)

/-- Steps on the first of two parts, where the second one stays. -/
theorem steps_fst_iff {α β : Type} {step : α → Text × Text → α → Prop} {a a' : α × β}
    {ms : List (Text × Text)} :
    Steps (fun a m a' => step a.1 m a'.1 ∧ a'.2 = a.2) a ms a' ↔
      Steps step a.1 ms a'.1 ∧ a'.2 = a.2 := by
  constructor
  · intro h
    induction h with
    | nil => exact ⟨.nil _, rfl⟩
    | cons hs _ ih => exact ⟨.cons hs.1 ih.1, ih.2.trans hs.2⟩
  · obtain ⟨a, b⟩ := a
    obtain ⟨a', b'⟩ := a'
    rintro ⟨h, he⟩
    obtain rfl : b' = b := he
    replace h : Steps step a ms a' := h
    induction h with
    | nil => exact .nil _
    | @cons _ a₁ _ _ _ hs _ ih => exact .cons (b := (a₁, b')) ⟨hs, rfl⟩ ih

/-! ## Between members -/

theorem nextKey_eq_inr {first : Bool} {s rest : Text} (h : nextKey first s = .ok (.inr rest)) :
    ∃ a, Spaces a ∧ s = a ++ '}' :: rest := by
  obtain ⟨a, ha, he⟩ := exists_skipSpace s
  unfold nextKey at h
  split at h
  · cases h
  rename_i c s' hc
  split at h
  · rename_i hb
    cases h
    exact ⟨a, ha, by rw [he, hc, hb]⟩
  · repeat' split at h
    all_goals cases h

theorem nextKey_true_eq_inl {s rest : Text} (h : nextKey true s = .ok (.inl rest)) :
    ∃ a, Spaces a ∧ s = a ++ '"' :: rest := by
  obtain ⟨a, ha, he⟩ := exists_skipSpace s
  unfold nextKey at h
  split at h
  · cases h
  rename_i c s' hc
  split at h
  · cases h
  split at h
  · split at h
    · rename_i hq
      cases h
      exact ⟨a, ha, by rw [he, hc, hq]⟩
    · cases h
  · exact absurd rfl ‹_›

theorem nextKey_false_eq_inl {s rest : Text} (h : nextKey false s = .ok (.inl rest)) :
    ∃ d a, Spaces d ∧ Spaces a ∧ s = d ++ ',' :: (a ++ '"' :: rest) := by
  obtain ⟨d, hd, he⟩ := exists_skipSpace s
  unfold nextKey at h
  split at h
  · cases h
  rename_i c s' hc
  obtain ⟨a, ha, he'⟩ := exists_skipSpace s'
  split at h
  · cases h
  split at h
  · exact absurd ‹_› Bool.false_ne_true
  split at h
  · rename_i hcomma
    split at h
    · cases h
    rename_i c' s'' hc'
    split at h
    · rename_i hq
      cases h
      exact ⟨d, a, hd, ha, by rw [he, hc, hcomma, he', hc', hq]⟩
    · split at h <;> cases h
  · cases h

theorem nextKey_inr {a : Text} (ha : Spaces a) (first : Bool) (rest : Text) :
    nextKey first (a ++ '}' :: rest) = .ok (.inr rest) := by
  simp [nextKey, skipSpace_spaces ha (c := '}') (by decide)]

theorem nextKey_true_inl {a : Text} (ha : Spaces a) (rest : Text) :
    nextKey true (a ++ '"' :: rest) = .ok (.inl rest) := by
  simp [nextKey, skipSpace_spaces ha (c := '"') (by decide)]

theorem nextKey_false_inl {d a : Text} (hd : Spaces d) (ha : Spaces a) (rest : Text) :
    nextKey false (d ++ ',' :: (a ++ '"' :: rest)) = .ok (.inl rest) := by
  simp [nextKey, skipSpace_spaces hd (c := ',') (by decide),
    skipSpace_spaces ha (c := '"') (by decide)]

/-! ## Members -/

section
variable {α : Type} {read : α → Text → Text → Except Fault (α × Text)}
  {step : α → Text × Text → α → Prop}

/-- A key, what follows it up to the end of the value, and the space behind. -/
theorem isMember_of_parts {a b c d body key : Text} (ha : Spaces a) (hb : Spaces b)
    (hc : Spaces c) (hd : Spaces d) (hk : Denotes body key) (value rest : Text) :
    ∃ s, IsMember (key, value) s ∧
      a ++ '"' :: (body ++ '"' :: (b ++ ':' :: (c ++ (value ++ (d ++ rest))))) = s ++ rest :=
  ⟨_, .mk ha ⟨body, hk, rfl⟩ hb hc hd, by simp⟩

theorem IsMember.exists_parts {m : Text × Text} {s : Text} (h : IsMember m s) (rest : Text) :
    ∃ a body b c d, Spaces a ∧ Denotes body m.1 ∧ Spaces b ∧ Spaces c ∧ Spaces d ∧
      s ++ rest = a ++ '"' :: (body ++ '"' :: (b ++ ':' :: (c ++ (m.2 ++ (d ++ rest))))) := by
  obtain ⟨ha, ⟨body, hk, rfl⟩, hb, hc, hd⟩ := h
  exact ⟨_, body, _, _, _, ha, hk, hb, hc, hd, by simp⟩

/-- Behind a member, the reader takes the space up to the end of that member, further members, and
the bracket. -/
theorem readMembers_false_sound (h : Obeys read step) {fuel : Nat} {a a' : α} {s rest : Text}
    (hr : readMembers read fuel false a s = .ok (a', rest)) :
    ∃ d t ms, Spaces d ∧ MoreMembers ms t ∧ Steps step a ms a' ∧
      s = d ++ (t ++ '}' :: rest) := by
  -- The space `d` that is read first ends the member in front.
  induction fuel generalizing a s with
  | zero => cases hr
  | succ fuel ih =>
    obtain ⟨next, hn, hr₁⟩ := exists_of_bind_eq_ok hr
    cases next with
    | inr s₁ =>
      cases hr₁
      obtain ⟨d, hd, rfl⟩ := nextKey_eq_inr hn
      exact ⟨d, [], [], hd, .nil, .nil _, rfl⟩
    | inl s₁ =>
      obtain ⟨⟨key, s₂⟩, hk, hr₂⟩ := exists_of_bind_eq_ok hr₁
      obtain ⟨⟨a₁, s₃⟩, hm, hr₃⟩ := exists_of_bind_eq_ok hr₂
      obtain ⟨d, e, hd, he, rfl⟩ := nextKey_false_eq_inl hn
      obtain ⟨body, hb, rfl⟩ := readLiteral_eq_ok_iff.1 hk
      obtain ⟨b, c, value, hb', hc, hs, rfl⟩ := h hm
      obtain ⟨d', t, ms, hd', ht, hss, rfl⟩ := ih hr₃
      obtain ⟨m, hm, hmt⟩ := isMember_of_parts he hb' hc hd' hb value (t ++ '}' :: rest)
      refine ⟨d, _, _, hd, .cons hm ht, .cons hs hss, ?_⟩
      rw [hmt]
      simp

/-- What is read behind an opening bracket is the rest of an object text, and the state has gone
through its members. -/
theorem readMembers_sound (h : Obeys read step) {fuel : Nat} {a a' : α} {s rest : Text}
    (hr : readMembers read fuel true a s = .ok (a', rest)) :
    ∃ t ms, IsInside ms t ∧ Steps step a ms a' ∧ s = t ++ '}' :: rest := by
  cases fuel with
  | zero => cases hr
  | succ fuel =>
    obtain ⟨next, hn, hr₁⟩ := exists_of_bind_eq_ok hr
    cases next with
    | inr s₁ =>
      cases hr₁
      obtain ⟨d, hd, rfl⟩ := nextKey_eq_inr hn
      exact ⟨d, [], .empty hd, .nil _, rfl⟩
    | inl s₁ =>
      obtain ⟨⟨key, s₂⟩, hk, hr₂⟩ := exists_of_bind_eq_ok hr₁
      obtain ⟨⟨a₁, s₃⟩, hm, hr₃⟩ := exists_of_bind_eq_ok hr₂
      obtain ⟨e, he, rfl⟩ := nextKey_true_eq_inl hn
      obtain ⟨body, hb, rfl⟩ := readLiteral_eq_ok_iff.1 hk
      obtain ⟨b, c, value, hb', hc, hs, rfl⟩ := h hm
      obtain ⟨d, t, ms, hd, ht, hss, rfl⟩ := readMembers_false_sound h hr₃
      obtain ⟨m, hm, hmt⟩ := isMember_of_parts he hb' hc hd hb value (t ++ '}' :: rest)
      refine ⟨_, _, .members hm ht, .cons hs hss, ?_⟩
      rw [hmt]
      simp

/-- What follows the value of a member ends it. -/
theorem MoreMembers.stops {ms : List (Text × Text)} {t d : Text} (h : MoreMembers ms t)
    (hd : Spaces d) (rest : Text) : Stops (d ++ (t ++ '}' :: rest)) := by
  refine stops_append (spaces_iff.1 hd) ?_
  cases h with
  | nil => exact stops_cons (by decide) _
  | cons _ _ => exact stops_cons (by decide) _

theorem MoreMembers.length_le {ms : List (Text × Text)} {t : Text} (h : MoreMembers ms t) :
    ms.length ≤ t.length := by
  induction h with
  | nil => exact Nat.le_refl _
  | cons _ _ ih =>
    simp only [List.length_cons, List.length_append]
    omega

/-- Behind a member, further members are read up to the bracket if there are steps for them. -/
theorem readMembers_false_complete (h : Performs read step) {ms : List (Text × Text)} {t : Text}
    (ht : MoreMembers ms t) {a a' : α} (hs : Steps step a ms a') {d : Text} (hd : Spaces d)
    (rest : Text) {fuel : Nat} (hf : ms.length < fuel) :
    readMembers read fuel false a (d ++ (t ++ '}' :: rest)) = .ok (a', rest) := by
  induction ht generalizing a d fuel with
  | nil =>
    obtain ⟨fuel, rfl⟩ := Nat.exists_eq_succ_of_ne_zero (by omega : fuel ≠ 0)
    cases hs
    simp [readMembers, nextKey_inr hd, bind, Except.bind, pure, Except.pure]
  | @cons m ms s t hm ht ih =>
    obtain ⟨fuel, rfl⟩ := Nat.exists_eq_succ_of_ne_zero (by omega : fuel ≠ 0)
    obtain - | ⟨hstep, hs⟩ := hs
    obtain ⟨e, body, b, c, d', he, hk, hb, hc, hd', hw⟩ := hm.exists_parts (t ++ '}' :: rest)
    have hr := h hstep hb hc (ht.stops hd' rest)
    have hi := ih hs hd' (Nat.lt_of_succ_lt_succ hf)
    rw [List.cons_append, List.append_assoc, hw]
    simp [readMembers, nextKey_false_inl hd he, readLiteral_of_denotes hk, hr, hi, bind,
      Except.bind]

/-- Behind an opening bracket, the members of an object are read if there are steps for them. -/
theorem readMembers_complete (h : Performs read step) {ms : List (Text × Text)} {t : Text}
    (ht : IsInside ms t) {a a' : α} (hs : Steps step a ms a') (rest : Text) {fuel : Nat}
    (hf : t.length < fuel) :
    readMembers read fuel true a (t ++ '}' :: rest) = .ok (a', rest) := by
  obtain ⟨fuel, rfl⟩ := Nat.exists_eq_succ_of_ne_zero (by omega : fuel ≠ 0)
  cases ht with
  | empty hd =>
    cases hs
    simp [readMembers, nextKey_inr hd, bind, Except.bind, pure, Except.pure]
  | @members m ms s t hm ht =>
    obtain - | ⟨hstep, hs⟩ := hs
    obtain ⟨e, body, b, c, d, he, hk, hb, hc, hd, hw⟩ := hm.exists_parts (t ++ '}' :: rest)
    have hr := h hstep hb hc (ht.stops hd rest)
    have hl := ht.length_le
    have hf : ms.length < fuel := by
      have := hm.length_lt
      simp only [List.length_append] at hf
      omega
    have hi := readMembers_false_complete h ht hs hd rest hf
    rw [List.append_assoc, hw]
    simp [readMembers, nextKey_true_inl he, readLiteral_of_denotes hk, hr, hi, bind, Except.bind]

end

end Json

end PromptWeave
