import PromptWeave.Proofs.Node.Slots

/-! Collecting up to the first missing slot.

The rule that is followed looks at one slot after the other and knows no bound on their number
(`Collects`). It comes to an end, since each slot that is found is another member, and what it comes
to is what is collected (`collects_iff`). Only the slots up to the first missing one count
(`Collects.congr`), and all of those in front of it hold wires or nothing, or else the first one
that does not is complained about. -/

namespace PromptWeave

namespace Request

variable {slots : Json.Members}

/-! ## Keys of slots -/

/-- Keys that look like those of slots: the numbers begin with 0 or have a sign, or there is
none. -/
def lookAlikes : List Text :=
  ["input_0".toList, "input_01".toList, "input_+1".toList, "input_".toList]

theorem slotKey_not_mem_lookAlikes {i : Nat} (h : 1 ≤ i) : slotKey i ∉ lookAlikes := by
  intro hm
  simp only [lookAlikes, List.mem_cons, List.not_mem_nil, or_false] at hm
  -- It could be the key of that slot only whose number its digits write.
  rcases hm with hk | hk | hk | hk
  · have hi : i = 0 := eq_valueOf_of_slotKey (t := ['0']) hk
    omega
  · obtain rfl : i = 1 := eq_valueOf_of_slotKey (t := ['0', '1']) hk
    exact absurd hk (by decide)
  · obtain rfl : i = 1 := eq_valueOf_of_slotKey (t := ['+', '1']) hk
    exact absurd hk (by decide)
  · have hi : i = 0 := eq_valueOf_of_slotKey (t := []) hk
    omega

/-! ## The first missing slot -/

/-- The first slot, counted from 1, that is missing. -/
structure FirstMissing (slots : Json.Members) (m : Nat) : Prop where
  pos : 1 ≤ m
  missing : slots.get? (slotKey m) = none
  present : ∀ i, 1 ≤ i → i < m → slots.get? (slotKey i) ≠ none

theorem exists_firstMissing (slots : Json.Members) : ∃ m, FirstMissing slots m := by
  classical
  have h : ∃ m, 1 ≤ m ∧ slots.get? (slotKey m) = none := by
    obtain ⟨n, hn⟩ := exists_missing slots
    exact ⟨1 + n, by omega, hn⟩
  refine ⟨Nat.find h, (Nat.find_spec h).1, (Nat.find_spec h).2, fun i hi hlt hn => ?_⟩
  exact Nat.find_min h hlt ⟨hi, hn⟩

/-! ## One slot after the other -/

/-- Looking at one slot after the other from the slot `slot` on, with the wires collected so far.
This ends at a slot that is missing, and at one that holds something else than a text. A slot that
holds nothing is passed over. -/
inductive Collects (slots : Json.Members) :
    (slot : Nat) → (wires : List Text) → Except NodeError (List Text) → Prop
  | missing : slots.get? (slotKey slot) = none → Collects slots slot wires (.ok wires)
  | empty : slots.get? (slotKey slot) = some .null → Collects slots (slot + 1) wires result →
      Collects slots slot wires result
  | text : slots.get? (slotKey slot) = some (.text wire) →
      Collects slots (slot + 1) (wires ++ [wire]) result → Collects slots slot wires result
  | misplaced : slots.get? (slotKey slot) = some value → value ≠ .null →
      (∀ wire, value ≠ .text wire) →
      Collects slots slot wires (.error (.inputNotText slot value))

/-- There is one end to come to. -/
theorem Collects.unique {slot : Nat} {wires : List Text} {r r' : Except NodeError (List Text)}
    (h : Collects slots slot wires r) (h' : Collects slots slot wires r') : r = r' := by
  induction h with
  | missing hm => cases h' <;> simp_all
  | empty he _ ih =>
    cases h' with
    | empty _ h' => exact ih h'
    | _ => simp_all
  | text ht _ ih =>
    cases h' with
    | text ht' h' =>
      rw [ht, Option.some.injEq, Json.text.injEq] at ht'
      subst ht'
      exact ih h'
    | _ => simp_all
  | misplaced hv hn ht =>
    cases h' with
    | missing h' =>
      rw [hv] at h'
      cases h'
    | empty h' => exact absurd (Option.some.inj (hv.symm.trans h')) hn
    | text h' => exact absurd (Option.some.inj (hv.symm.trans h')) (ht _)
    | misplaced h' =>
      rw [hv] at h'
      cases h'
      rfl

/-- Connected slots are gone through, and their wires are added. -/
theorem collects_of_connected {slot n : Nat} {wires : List Text}
    {result : Except NodeError (List Text)} (h : ∀ i < n, Connected slots (slot + i))
    (hr : Collects slots (slot + n)
      (wires ++ (List.range' slot n).filterMap (wire? slots)) result) :
    Collects slots slot wires result := by
  induction n generalizing slot wires with
  | zero => simpa using hr
  | succ n ih =>
    have hs : ∀ i < n, Connected slots (slot + 1 + i) := fun i hi => by
      simpa [Nat.add_assoc, Nat.add_comm 1 i] using h (i + 1) (Nat.succ_lt_succ hi)
    rw [List.range'_succ, ← Nat.add_assoc, Nat.add_right_comm] at hr
    rcases h 0 (Nat.succ_pos n) with h0 | ⟨wire, h0⟩ <;> rw [Nat.add_zero] at h0
    · have hw : wire? slots slot = none := by rw [wire?, h0]
      rw [List.filterMap_cons_none hw] at hr
      exact .empty h0 (ih hs hr)
    · have hw : wire? slots slot = some wire := by rw [wire?, h0]
      rw [List.filterMap_cons_some hw, List.append_cons] at hr
      exact .text h0 (ih hs hr)

/-- What is collected is what looking at one slot after the other comes to: the bound on the search
never cuts it short. -/
theorem collects_collect (slots : Json.Members) : Collects slots 1 [] (collect slots) := by
  obtain ⟨n, h⟩ := exists_stop slots
  apply collects_of_connected h.connected
  rw [collect_of_stop h, List.nil_append]
  split
  · rename_i hm
    exact .missing hm
  · rename_i value hv
    obtain ⟨-, -, -, hn, ht⟩ := (misplaced_iff h).2 ⟨rfl, hv⟩
    exact .misplaced hv hn ht

theorem collects_iff {result : Except NodeError (List Text)} :
    Collects slots 1 [] result ↔ result = collect slots := by
  constructor
  · exact fun h => h.unique (collects_collect slots)
  · rintro rfl
    exact collects_collect slots

/-- Nothing counts but the slots up to the first missing one. -/
theorem Collects.congr {slots' : Json.Members} {slot m : Nat} {wires : List Text}
    {result : Except NodeError (List Text)} (h : Collects slots slot wires result) (hs : slot ≤ m)
    (hm : slots.get? (slotKey m) = none)
    (he : ∀ i, slot ≤ i → i ≤ m → slots'.get? (slotKey i) = slots.get? (slotKey i)) :
    Collects slots' slot wires result := by
  induction h with
  | missing hv => exact .missing ((he _ (Nat.le_refl _) hs).trans hv)
  | @empty slot wires result hv _ ih =>
    have hlt : slot < m := Nat.lt_of_le_of_ne hs (by rintro rfl; simp [hv] at hm)
    refine .empty ((he _ (Nat.le_refl _) hs).trans hv) (ih hlt fun i hi => he i ?_)
    exact Nat.le_of_succ_le hi
  | @text slot wire wires result hv _ ih =>
    have hlt : slot < m := Nat.lt_of_le_of_ne hs (by rintro rfl; simp [hv] at hm)
    refine .text ((he _ (Nat.le_refl _) hs).trans hv) (ih hlt fun i hi => he i ?_)
    exact Nat.le_of_succ_le hi
  | misplaced hv hn ht => exact .misplaced ((he _ (Nat.le_refl _) hs).trans hv) hn ht

/-! ## What the first missing slot settles -/

namespace FirstMissing
variable {m : Nat} (h : FirstMissing slots m)
include h

theorem endsAt (hc : ∀ i, 1 ≤ i → i < m → Connected slots i) : EndsAt slots (m - 1) where
  connected i hi := hc (1 + i) (by omega) (by omega)
  missing := by
    rw [Nat.add_sub_cancel' h.pos]
    exact h.missing

/-- Where not all slots in front of the missing one are connected, the first one that is not is
complained about. -/
theorem exists_misplaced {i : Nat} (hi : 1 ≤ i) (hlt : i < m) (hc : ¬Connected slots i) :
    ∃ slot value, slot < m ∧ Misplaced slots slot value ∧
      collect slots = .error (.inputNotText slot value) := by
  obtain ⟨n, hs⟩ := exists_stop slots
  -- The run of connected slots breaks off at `i` if not before.
  have hn : 1 + n ≤ i := by
    by_contra hin
    obtain ⟨k, rfl⟩ := Nat.exists_eq_add_of_le hi
    exact hc (hs.connected k (by omega))
  obtain ⟨value, hv⟩ := Option.ne_none_iff_exists'.1 (h.present (1 + n) (by omega) (by omega))
  refine ⟨1 + n, value, by omega, (misplaced_iff hs).2 ⟨rfl, hv⟩, ?_⟩
  rw [collect_of_stop hs, hv]

theorem collect_congr {slots' : Json.Members}
    (he : ∀ i, 1 ≤ i → i ≤ m → slots'.get? (slotKey i) = slots.get? (slotKey i)) :
    collect slots' = collect slots :=
  (collects_iff.1 ((collects_collect slots).congr h.pos h.missing he)).symm

end FirstMissing

theorem run_gather {σ : Type} [Source σ] (slots : Json.Members) (s : σ) :
    ∃ reports, (gather slots).run s = ⟨collect slots, s, [], reports⟩ := by
  unfold gather
  cases collect slots <;> exact ⟨_, rfl⟩

/-- Looking at one slot after the other always comes to an end, whatever the members are and in
whichever order they stand. If all slots in front of the first missing one hold texts or nothing,
their texts are collected in the order of the slots; otherwise the first slot that holds something
else is complained about. Members with other keys do not count, and those that only look like slots
are among them. -/
theorem gather_up_to_firstMissing {σ : Type} [Source σ] (slots : Json.Members) (s : σ) :
    ∃ m, FirstMissing slots m ∧
      (∀ result, Collects slots 1 [] result ↔ result = ((gather slots).run s).value) ∧
      ((∀ i, 1 ≤ i → i < m → Connected slots i) →
        ((gather slots).run s).value = .ok ((List.range' 1 (m - 1)).filterMap (wire? slots))) ∧
      ((∃ i, 1 ≤ i ∧ i < m ∧ ¬Connected slots i) →
        ∃ slot value, slot < m ∧ Misplaced slots slot value ∧
          ((gather slots).run s).value = .error (.inputNotText slot value)) ∧
      (∀ slots',
        (∀ i, 1 ≤ i → i ≤ m → slots'.get? (slotKey i) = slots.get? (slotKey i)) →
        ((gather slots').run s).value = ((gather slots).run s).value) ∧
      ∀ i, 1 ≤ i → slotKey i ∉ lookAlikes := by
  have hv : ∀ slots, ((gather slots).run s).value = collect slots := fun slots => by
    obtain ⟨reports, hr⟩ := run_gather slots s
    rw [hr]
  obtain ⟨m, hm⟩ := exists_firstMissing slots
  simp only [hv]
  refine ⟨m, hm, fun _ => collects_iff, fun hc => ?_, ?_, fun slots' he => hm.collect_congr he,
    fun i hi => slotKey_not_mem_lookAlikes hi⟩
  · exact collect_eq_ok_iff.2 ⟨m - 1, hm.endsAt hc, rfl⟩
  · rintro ⟨i, hi, hlt, hc⟩
    exact hm.exists_misplaced hi hlt hc

example : collect ((List.range' 1 12).reverse.map fun i => (slotKey i, .text (Text.ofNat i))) =
    .ok ((List.range' 1 12).map Text.ofNat) := by rfl

end Request

end PromptWeave
