import Mathlib.Data.List.Nodup
import Mathlib.Data.List.Perm.Subperm
import Mathlib.Data.Nat.Find
import PromptWeave.Node.Request
import PromptWeave.Proofs.Json.Reading

/-! The slots of a request.

The inputs of a request are the slots from the first one up to where the run of connected slots
breaks off (`exists_stop`). Their wires are collected if the next slot is missing
(`collect_eq_ok_iff`), and it is that slot which is complained about if it holds something else than
a text (`collect_eq_error_iff`). -/

namespace PromptWeave

namespace Request

variable {slots : Json.Members}

/-! ## Keys -/

/-- The number of a slot is that of the digits in its key. -/
theorem eq_valueOf_of_slotKey {i : Nat} {t : Text} (h : slotKey i = "input_".toList ++ t) :
    i = Text.valueOf 10 (t.filterMap Text.digit?) := by
  have ht : Text.ofNat i = t := List.append_cancel_left h
  rw [← ht]
  exact (Json.valueOf_digitsOf i).symm

theorem slotKey_injective : Function.Injective slotKey :=
  fun _ j h => (eq_valueOf_of_slotKey h).trans (Json.valueOf_digitsOf j)

theorem mem_keys_of_get? {key : Text} {value : Json} (h : slots.get? key = some value) :
    key ∈ slots.map Prod.fst := by
  obtain ⟨m, hm, -⟩ := Option.map_eq_some_iff.1 h
  have hk : m.1 = key := by simpa using List.find?_some hm
  exact List.mem_map.2 ⟨m, List.mem_of_find?_eq_some hm, hk⟩

/-- There are no more numbered slots than members. -/
theorem le_length_of_present {n : Nat}
    (h : ∀ i < n, ∃ value, slots.get? (slotKey (1 + i)) = some value) : n ≤ slots.length := by
  have hn : ((List.range n).map fun i => slotKey (1 + i)).Nodup :=
    List.Nodup.map (fun i j hij => Nat.add_left_cancel (slotKey_injective hij)) List.nodup_range
  have hs : ((List.range n).map fun i => slotKey (1 + i)) ⊆ slots.map Prod.fst := by
    intro key hk
    obtain ⟨i, hi, rfl⟩ := List.mem_map.1 hk
    obtain ⟨value, hv⟩ := h i (List.mem_range.1 hi)
    exact mem_keys_of_get? hv
  simpa using (List.subperm_of_subset hn hs).length_le

theorem exists_missing (slots : Json.Members) : ∃ n, slots.get? (slotKey (1 + n)) = none := by
  by_contra hc
  have hl : slots.length + 1 ≤ slots.length :=
    le_length_of_present fun i _ => Option.ne_none_iff_exists'.1 fun hn => hc ⟨i, hn⟩
  omega

/-! ## The run of connected slots -/

/-- The slot of an input holds a text, or nothing. -/
def Connected (slots : Json.Members) (slot : Nat) : Prop :=
  slots.get? (slotKey slot) = some .null ∨ ∃ wire, slots.get? (slotKey slot) = some (.text wire)

theorem Connected.present {slot : Nat} (h : Connected slots slot) :
    ∃ value, slots.get? (slotKey slot) = some value :=
  h.elim (fun h => ⟨_, h⟩) fun ⟨_, h⟩ => ⟨_, h⟩

/-- The wire in the slot of an input. -/
def wire? (slots : Json.Members) (slot : Nat) : Option Text :=
  match slots.get? (slotKey slot) with
  | some (.text wire) => some wire
  | _ => none

/-- Connected slots are gone through, and their wires are those collected first. -/
theorem collectFrom_of_connected {slot n : Nat} (h : ∀ i < n, Connected slots (slot + i))
    (fuel : Nat) :
    collectFrom slots (n + fuel) slot =
      (collectFrom slots fuel (slot + n)).map
        ((List.range' slot n).filterMap (wire? slots) ++ ·) := by
  induction n generalizing slot with
  | zero =>
    rw [Nat.zero_add]
    cases collectFrom slots fuel slot <;> rfl
  | succ n ih =>
    have hs : ∀ i < n, Connected slots (slot + 1 + i) := fun i hi => by
      simpa [Nat.add_assoc, Nat.add_comm 1 i] using h (i + 1) (Nat.succ_lt_succ hi)
    have hi := ih hs
    rw [Nat.add_assoc, Nat.add_comm 1 n] at hi
    rw [Nat.succ_add, collectFrom, List.range'_succ]
    rcases h 0 (Nat.succ_pos n) with h0 | ⟨wire, h0⟩ <;> rw [Nat.add_zero] at h0
    · simp [h0, hi, wire?]
    · rw [h0, hi]
      have hw : wire? slots slot = some wire := by rw [wire?, h0]
      rw [List.filterMap_cons_some hw]
      cases collectFrom slots fuel (slot + (n + 1)) <;> rfl

/-- The slots are connected from the first one on up to some place, and not there. -/
structure StopsAt (slots : Json.Members) (n : Nat) : Prop where
  connected : ∀ i < n, Connected slots (1 + i)
  stop : ¬Connected slots (1 + n)

theorem StopsAt.le_length {n : Nat} (h : StopsAt slots n) : n ≤ slots.length :=
  le_length_of_present fun i hi => (h.connected i hi).present

theorem exists_stop (slots : Json.Members) : ∃ n, StopsAt slots n := by
  classical
  have h : ∃ n, ¬Connected slots (1 + n) := by
    obtain ⟨n, hn⟩ := exists_missing slots
    refine ⟨n, fun hc => ?_⟩
    obtain ⟨value, hv⟩ := hc.present
    rw [hn] at hv
    cases hv
  exact ⟨Nat.find h, fun i hi => not_not.1 (Nat.find_min h hi), Nat.find_spec h⟩

/-- What is collected is settled by the slot where the run of connected slots stops. -/
theorem collect_of_stop {n : Nat} (h : StopsAt slots n) :
    collect slots =
      match slots.get? (slotKey (1 + n)) with
      | none => .ok ((List.range' 1 n).filterMap (wire? slots))
      | some value => .error (.inputNotText (1 + n) value) := by
  obtain ⟨fuel, hf⟩ := Nat.exists_eq_add_of_le h.le_length
  rw [collect, hf, collectFrom_of_connected h.connected]
  cases fuel with
  | zero =>
    -- All members are slots of the run, so that there is no other one.
    have hm : slots.get? (slotKey (1 + n)) = none := by
      by_contra hc
      obtain ⟨value, hv⟩ := Option.ne_none_iff_exists'.1 hc
      have hl : n + 1 ≤ slots.length := le_length_of_present fun i hi =>
        (Nat.lt_succ_iff_lt_or_eq.1 hi).elim (fun hi => (h.connected i hi).present) fun he =>
          ⟨value, he ▸ hv⟩
      omega
    rw [hm]
    simp [collectFrom, Except.map]
  | succ fuel =>
    rw [collectFrom]
    split <;> rename_i hv
    · simp [hv, Except.map]
    · exact absurd (.inl hv) h.stop
    · exact absurd (.inr ⟨_, hv⟩) h.stop
    · rw [hv]
      rfl

/-- The slots are connected from the first one on up to some place, and the next one is missing. -/
structure EndsAt (slots : Json.Members) (n : Nat) : Prop where
  connected : ∀ i < n, Connected slots (1 + i)
  missing : slots.get? (slotKey (1 + n)) = none

theorem EndsAt.stopsAt {n : Nat} (h : EndsAt slots n) : StopsAt slots n where
  connected := h.connected
  stop hc := by
    obtain ⟨value, hv⟩ := hc.present
    rw [h.missing] at hv
    cases hv

/-- Collecting ends well just if the run of connected slots ends at a missing one, and then gives
the wires of the run in the order of the slots. -/
theorem collect_eq_ok_iff {wires : List Text} :
    collect slots = .ok wires ↔
      ∃ n, EndsAt slots n ∧ wires = (List.range' 1 n).filterMap (wire? slots) := by
  constructor
  · intro hw
    obtain ⟨n, h⟩ := exists_stop slots
    rw [collect_of_stop h] at hw
    split at hw
    · rename_i hv
      exact ⟨n, ⟨h.connected, hv⟩, (Except.ok.inj hw).symm⟩
    · cases hw
  · rintro ⟨n, h, rfl⟩
    rw [collect_of_stop h.stopsAt, h.missing]

/-! ## Slots without a text -/

/-- The first slot of the run that holds something else than a text, and what it holds. -/
structure Misplaced (slots : Json.Members) (slot : Nat) (value : Json) : Prop where
  pos : 1 ≤ slot
  before : ∀ i, 1 ≤ i → i < slot → Connected slots i
  holds : slots.get? (slotKey slot) = some value
  ne_null : value ≠ .null
  ne_text : ∀ wire, value ≠ .text wire

theorem misplaced_iff {n slot : Nat} {value : Json} (h : StopsAt slots n) :
    Misplaced slots slot value ↔ slot = 1 + n ∧ slots.get? (slotKey (1 + n)) = some value := by
  constructor
  · intro hm
    have hc : ¬Connected slots slot := by
      rintro (hc | ⟨wire, hc⟩) <;> rw [hm.holds] at hc
      · exact hm.ne_null (Option.some.inj hc)
      · exact hm.ne_text wire (Option.some.inj hc)
    obtain ⟨k, rfl⟩ := Nat.exists_eq_add_of_le hm.pos
    -- The run stops at one place only.
    have hk : k = n := by
      rcases Nat.lt_trichotomy k n with hk | hk | hk
      · exact absurd (h.connected k hk) hc
      · exact hk
      · exact absurd (hm.before (1 + n) (by omega) (by omega)) h.stop
    exact ⟨by rw [hk], hk ▸ hm.holds⟩
  · rintro ⟨rfl, hv⟩
    refine ⟨by omega, fun i hi hlt => ?_, hv, ?_, ?_⟩
    · obtain ⟨k, rfl⟩ := Nat.exists_eq_add_of_le hi
      exact h.connected k (by omega)
    · rintro rfl
      exact h.stop (.inl hv)
    · rintro wire rfl
      exact h.stop (.inr ⟨wire, hv⟩)

/-- Collecting fails just at the first slot of the run that holds something else than a text. -/
theorem collect_eq_error_iff {e : NodeError} :
    collect slots = .error e ↔
      ∃ slot value, Misplaced slots slot value ∧ e = .inputNotText slot value := by
  obtain ⟨n, h⟩ := exists_stop slots
  rw [collect_of_stop h]
  constructor
  · intro he
    split at he
    · cases he
    · rename_i value hv
      exact ⟨1 + n, value, (misplaced_iff h).2 ⟨rfl, hv⟩, (Except.error.inj he).symm⟩
  · rintro ⟨slot, value, hm, rfl⟩
    obtain ⟨rfl, hv⟩ := (misplaced_iff h).1 hm
    rw [hv]

end Request

end PromptWeave
