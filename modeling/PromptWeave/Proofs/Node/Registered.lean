import Mathlib.Data.List.Induction
import PromptWeave.Node.Registry
import PromptWeave.Proofs.Json.Sorted

/-! Evaluators that are registered one after the other.

A registry stands for the evaluators that were registered so far (`Reflects`): its ids rise, and for
each id it knows the evaluator that came last. Registering keeps this (`Reflects.register`), so it
holds of every registry that is built from the empty one (`reflects_registerAll`), and evaluations
between the registrations make no difference (`Reflects.useAll_eq`). -/

namespace PromptWeave

namespace Registry

/-- The registry after evaluators are registered one after the other. -/
def registerAll (history : List Evaluator) : Registry :=
  history.foldl register empty

/-- The evaluator that was registered last under an id. -/
def latest? (history : List Evaluator) (id : Text) : Option Evaluator :=
  history.reverse.find? fun e => e.typeId = id

/-- A call to the evaluator that was registered last under an id. -/
def callLatest (history : List Evaluator) (id : Text) (request : Request) :
    Draw (Except NodeError Response) :=
  match latest? history id with
  | some e => e.evaluate request
  | none => do
    Draw.notice (.unknownNodeType id)
    return .error (.unknownNodeType id)

/-! ## Histories -/

section
variable {history : List Evaluator} {id : Text}

theorem find?_typeId_cons (e : Evaluator) (evaluators : List Evaluator) (id : Text) :
    ((e :: evaluators).find? fun other => other.typeId = id) =
      if e.typeId = id then some e else evaluators.find? fun other => other.typeId = id := by
  by_cases h : e.typeId = id <;> simp [h]

theorem latest?_append_singleton (history : List Evaluator) (e : Evaluator) (id : Text) :
    latest? (history ++ [e]) id = if e.typeId = id then some e else latest? history id := by
  unfold latest?
  rw [List.reverse_append, List.reverse_singleton, List.singleton_append, find?_typeId_cons]

theorem latest?_eq_none_iff :
    latest? history id = none ↔ id ∉ history.map Evaluator.typeId := by
  simp [latest?]

/-- The evaluator that is looked up is followed by none with its id. -/
theorem latest?_append_cons {earlier later : List Evaluator} {e : Evaluator}
    (h : ∀ other ∈ later, other.typeId ≠ e.typeId) :
    latest? (earlier ++ e :: later) e.typeId = some e := by
  have hn : later.reverse.find? (fun other => other.typeId = e.typeId) = none := by
    simpa using h
  unfold latest?
  rw [List.reverse_append, List.reverse_cons, List.append_assoc, List.find?_append, hn,
    Option.none_or, List.singleton_append, find?_typeId_cons, if_pos rfl]

end

/-! ## Insertion -/

theorem mem_map_typeId_insert {e : Evaluator} {evaluators : List Evaluator} {id : Text} :
    id ∈ (insert e evaluators).map Evaluator.typeId ↔
      id = e.typeId ∨ id ∈ evaluators.map Evaluator.typeId := by
  induction evaluators with
  | nil => simp [insert]
  | cons other rest ih =>
    unfold insert
    split
    · rename_i he
      simp [he]
    split
    · simp
    · rw [List.map_cons, List.mem_cons, ih, List.map_cons, List.mem_cons]
      exact or_left_comm

theorem pairwise_map_typeId_insert (e : Evaluator) {evaluators : List Evaluator}
    (h : (evaluators.map Evaluator.typeId).Pairwise (· < ·)) :
    ((insert e evaluators).map Evaluator.typeId).Pairwise (· < ·) := by
  induction evaluators with
  | nil => exact List.pairwise_singleton ..
  | cons other rest ih =>
    obtain ⟨ho, hs⟩ := List.pairwise_cons.1 h
    unfold insert
    split
    · rename_i he
      exact List.pairwise_cons.2 ⟨he ▸ ho, hs⟩
    split
    · rename_i hb
      have hlt : e.typeId < other.typeId := Text.before_iff_lt.1 hb
      exact List.pairwise_cons.2
        ⟨List.forall_mem_cons.2 ⟨hlt, fun id hid => hlt.trans (ho id hid)⟩, h⟩
    · rename_i hne hb
      refine List.pairwise_cons.2 ⟨fun id hid => ?_, ih hs⟩
      rcases mem_map_typeId_insert.1 hid with rfl | hid
      · exact lt_of_le_of_ne (not_lt.1 fun hlt => hb (Text.before_iff_lt.2 hlt)) hne
      · exact ho id hid

/-- An inserted evaluator is found under its id. Under the other ids nothing changes, so the order
does not matter here. -/
theorem find?_insert (e : Evaluator) (evaluators : List Evaluator) (id : Text) :
    ((insert e evaluators).find? fun other => other.typeId = id) =
      if e.typeId = id then some e else evaluators.find? fun other => other.typeId = id := by
  induction evaluators with
  | nil => exact find?_typeId_cons e [] id
  | cons other rest ih =>
    unfold insert
    split
    · rename_i ho
      rw [find?_typeId_cons, find?_typeId_cons, ho]
      by_cases he : e.typeId = id
      · rw [if_pos he, if_pos he]
      · rw [if_neg he, if_neg he, if_neg he]
    split
    · exact find?_typeId_cons e (other :: rest) id
    · rename_i hne _
      rw [find?_typeId_cons, ih, find?_typeId_cons]
      by_cases ho : other.typeId = id
      · rw [if_pos ho, if_pos ho, if_neg (fun he => hne (ho.trans he.symm))]
      · rw [if_neg ho, if_neg ho]

/-! ## Registries and histories -/

/-- A registry knows the evaluators of a history: its ids rise, and for each id it has the evaluator
that was registered last. -/
structure Reflects (r : Registry) (history : List Evaluator) : Prop where
  sorted : r.typeIds.Pairwise (· < ·)
  get?_eq : ∀ id, r.get? id = latest? history id

theorem reflects_empty : Reflects empty [] where
  sorted := .nil
  get?_eq _ := rfl

namespace Reflects

variable {r : Registry} {history : List Evaluator}

theorem register (h : r.Reflects history) (e : Evaluator) :
    (r.register e).Reflects (history ++ [e]) where
  sorted := pairwise_map_typeId_insert e h.sorted
  get?_eq id := by
    rw [latest?_append_singleton, ← h.get?_eq]
    exact find?_insert e r.evaluators id

theorem mem_typeIds_iff (h : r.Reflects history) {id : Text} :
    id ∈ r.typeIds ↔ id ∈ history.map Evaluator.typeId := by
  have hn : r.get? id = none ↔ id ∉ r.typeIds := by
    simp [get?, typeIds]
  rw [← not_iff_not, ← hn, h.get?_eq, latest?_eq_none_iff]

theorem evaluate_eq (h : r.Reflects history) (id : Text) (request : Request) :
    r.evaluate id request = callLatest history id request := by
  rw [evaluate, h.get?_eq]
  rfl

end Reflects

theorem reflects_registerAll (history : List Evaluator) :
    (registerAll history).Reflects history := by
  induction history using List.reverseRecOn with
  | nil => exact reflects_empty
  | append_singleton history e ih =>
    rw [registerAll, List.foldl_concat]
    exact ih.register e

/-! ## Sessions -/

/-- Something that is done with a registry. -/
inductive Use where
  | register (e : Evaluator)
  | evaluate (id : Text) (request : Request)

/-- The evaluators that are registered in a session. -/
def Use.registered (uses : List Use) : List Evaluator :=
  uses.filterMap fun
    | .register e => some e
    | .evaluate .. => none

/-- A session with a registry: the registry as it is in the end, and the answers. -/
def useAll : Registry → List Use → Draw (Registry × List (Except NodeError Response))
  | r, [] => return (r, [])
  | r, .register e :: uses => useAll (r.register e) uses
  | r, .evaluate id request :: uses => do
    let answer ← r.evaluate id request
    let (r, answers) ← useAll r uses
    return (r, answer :: answers)

/-- The answers in a session without a registry: each call goes to the evaluator that was registered
last. -/
def callAll : List Evaluator → List Use → Draw (List (Except NodeError Response))
  | _, [] => return []
  | history, .register e :: uses => callAll (history ++ [e]) uses
  | history, .evaluate id request :: uses => do
    let answer ← callLatest history id request
    let answers ← callAll history uses
    return answer :: answers

/-- A session with a registry gives the answers that it gives without one, and what it leaves behind
depends on the registrations alone. -/
theorem Reflects.useAll_eq {r : Registry} {history : List Evaluator} (h : r.Reflects history)
    (uses : List Use) :
    useAll r uses = callAll history uses >>= fun answers =>
      pure ((Use.registered uses).foldl Registry.register r, answers) := by
  induction uses generalizing r history with
  | nil => rfl
  | cons use uses ih =>
    cases use with
    | register e => exact ih (h.register e)
    | evaluate id request =>
      rw [useAll, callAll, h.evaluate_eq, ih h]
      simp only [bind_assoc, pure_bind]
      rfl

/-! ## Calls -/

section
variable {σ : Type} [Source σ]

/-- A call ends with the answer that there is no type with this id, and nothing was drawn. -/
def IsUnknown (id : Text) (o : Draw.Outcome σ (Except NodeError Response)) : Prop :=
  o.value = .error (.unknownNodeType id) ∧ o.picks = []

variable {history : List Evaluator} {id : Text} (request : Request)

theorem callLatest_eq {e : Evaluator} (h : latest? history id = some e) :
    callLatest history id request = e.evaluate request := by
  rw [callLatest, h]

theorem run_callLatest_of_unregistered (h : id ∉ history.map Evaluator.typeId) (s : σ) :
    (callLatest history id request).run s =
      ⟨.error (.unknownNodeType id), s, [], [.notice (.unknownNodeType id)]⟩ := by
  rw [callLatest, latest?_eq_none_iff.2 h]
  rfl

/-- The answer comes from the registry just for the ids that were never registered. Otherwise it is
that of the evaluator. -/
theorem isUnknown_run_callLatest_iff (s : σ) :
    IsUnknown id ((callLatest history id request).run s) ↔
      id ∉ history.map Evaluator.typeId ∨
        ∃ e, latest? history id = some e ∧ IsUnknown id ((e.evaluate request).run s) := by
  cases hl : latest? history id with
  | none =>
    have hid := latest?_eq_none_iff.1 hl
    rw [run_callLatest_of_unregistered request hid]
    exact iff_of_true ⟨rfl, rfl⟩ (.inl hid)
  | some e =>
    have hid : ¬id ∉ history.map Evaluator.typeId := fun hid => by
      cases hl.symm.trans (latest?_eq_none_iff.2 hid)
    rw [callLatest_eq request hl, or_iff_right hid]
    simp only [Option.some.injEq, exists_eq_left']

end

/-- Whatever was registered and in whichever order, the ids of the registry rise and are those that
were registered, and for each of them it has the evaluator that was registered last and evaluates as
this one does. An id that was never registered is answered as unknown, and nothing is drawn; there
is no other id of which a registry says this by itself. Evaluations between the registrations change
nothing. -/
theorem last_registered_wins (history : List Evaluator) :
    let r := registerAll history
    r.typeIds.Pairwise (· < ·) ∧
      (∀ id, id ∈ r.typeIds ↔ id ∈ history.map Evaluator.typeId) ∧
      (∀ id, r.get? id = latest? history id) ∧
      (∀ (earlier : List Evaluator) (e : Evaluator) (later : List Evaluator),
        history = earlier ++ e :: later → (∀ other ∈ later, other.typeId ≠ e.typeId) →
          r.get? e.typeId = some e ∧
            ∀ request, r.evaluate e.typeId request = e.evaluate request) ∧
      (∀ {σ : Type} [Source σ] (id : Text) (request : Request) (s : σ),
        (id ∉ history.map Evaluator.typeId →
          (r.evaluate id request).run s =
            ⟨.error (.unknownNodeType id), s, [], [.notice (.unknownNodeType id)]⟩) ∧
        (IsUnknown id ((r.evaluate id request).run s) ↔
          id ∉ history.map Evaluator.typeId ∨
            ∃ e, latest? history id = some e ∧ IsUnknown id ((e.evaluate request).run s))) ∧
      ∀ uses, useAll r uses = callAll history uses >>= fun answers =>
        pure (registerAll (history ++ Use.registered uses), answers) := by
  have h := reflects_registerAll history
  refine ⟨h.sorted, fun id => h.mem_typeIds_iff, h.get?_eq, fun earlier e later he hl => ?_,
    fun id request s => ?_, fun uses => ?_⟩
  · have hg : latest? history e.typeId = some e := he ▸ latest?_append_cons hl
    refine ⟨(h.get?_eq _).trans hg, fun request => ?_⟩
    rw [h.evaluate_eq, callLatest_eq request hg]
  · rw [h.evaluate_eq]
    exact ⟨fun hid => run_callLatest_of_unregistered request hid s,
      isUnknown_run_callLatest_iff request s⟩
  · rw [h.useAll_eq, registerAll, registerAll, List.foldl_append]

end Registry

end PromptWeave
