import PromptWeave.Proofs.Node.Reported
import PromptWeave.Proofs.Node.Slots

/-! Requests that the built-in nodes refuse.

Why a request is refused is settled by the id and the request before anything is drawn
(`Registry.Refuses`). So a refused request leaves the source as it is, and the answers to a sequence
of requests stay the same when the refused ones are left out (`Registry.refusals_leave_source`). -/

namespace PromptWeave

section
variable {σ : Type} [Source σ]

/-! ## Evaluators -/

namespace Request

/-- The parts of a request as a result, without the line for the log. -/
def parts? (request : Request) : Except NodeError (State × Inputs) := do
  let mode ← Mode.parse request.mode
  let wires ← collect request.slots
  return (request.state mode, ⟨request.text, request.negText, wires⟩)

theorem run_parts (request : Request) (s : σ) :
    ∃ reports, request.parts.run s = ⟨request.parts?, s, [], reports⟩ := by
  unfold parts parts? gather
  cases Mode.parse request.mode with
  | error e => exact ⟨_, rfl⟩
  | ok mode => cases collect request.slots <;> exact ⟨_, rfl⟩

end Request

namespace Evaluator

variable {request : Request}

theorem run_chain_of_error (observer : Observer) {e : NodeError} (h : request.parts? = .error e)
    (s : σ) :
    ∃ reports, ((chain observer).evaluate request).run s = ⟨.error e, s, [], reports⟩ := by
  obtain ⟨reports, hp⟩ := request.run_parts s
  rw [evaluate_chain, Draw.run_bind, hp, h]
  exact ⟨_, rfl⟩

/-- A request whose parts are in order is answered with what the node sends. -/
theorem run_chain_of_ok (observer : Observer) {p : State × Inputs} (h : request.parts? = .ok p)
    (s : σ) :
    let o := (Chain.evaluate observer p.1 p.2).run s
    ∃ reports, ((chain observer).evaluate request).run s =
      ⟨.ok (.ofOutput o.value), o.source, o.picks, reports⟩ := by
  obtain ⟨reports, hp⟩ := request.run_parts s
  rw [evaluate_chain, Draw.run_bind, hp, h]
  simp only [Draw.run_bind, Draw.run_pure, List.nil_append, List.append_nil]
  exact ⟨_, rfl⟩

theorem exists_value_chain (observer : Observer) {p : State × Inputs} (h : request.parts? = .ok p)
    (s : σ) : ∃ response, (((chain observer).evaluate request).run s).value = .ok response := by
  obtain ⟨reports, hr⟩ := run_chain_of_ok observer h s
  exact ⟨_, congrArg Draw.Outcome.value hr⟩

end Evaluator

end

namespace Registry

/-! ## Reasons -/

/-- The ids of the built-in nodes. -/
def nodeIds : List Text :=
  ["prompt_chain".toList, "prompt_chain_simple".toList, "prompt_chain_preview".toList]

/-- The names by which requests ask for a mode. -/
def modeNames : List Text :=
  ["Randomize".toList, "Combine".toList, "Switch".toList]

/-- The reasons for which the built-in nodes refuse a request: the id is none of theirs, or it is
that of the chain node, and there is no mode of the given name or, where there is one, a slot of an
input that does not hold a text. -/
inductive Refuses : Text → Request → NodeError → Prop
  | unknownNodeType {id : Text} {request : Request} : id ∉ nodeIds →
      Refuses id request (.unknownNodeType id)
  | unknownMode {request : Request} : Text.trim request.mode ∉ modeNames →
      Refuses "prompt_chain".toList request (.unknownMode request.mode)
  | inputNotText {request : Request} {slot : Nat} {value : Json} :
      Text.trim request.mode ∈ modeNames →
      Request.Misplaced request.slots slot value →
      Refuses "prompt_chain".toList request (.inputNotText slot value)

theorem ofText?_eq_none_iff {text : Text} :
    Mode.ofText? text = none ↔ Text.trim text ∉ modeNames := by
  have hn : modeNames = Mode.all.map Mode.name := rfl
  rw [hn, Mode.ofText?, List.find?_eq_none, List.mem_map]
  simp

theorem parts?_eq_error_iff {request : Request} {e : NodeError} :
    request.parts? = .error e ↔ Refuses "prompt_chain".toList request e := by
  have hid : "prompt_chain".toList ∈ nodeIds := List.mem_cons_self
  cases hm : Mode.ofText? request.mode with
  | none =>
    have hp : request.parts? = .error (.unknownMode request.mode) := by
      simp [Request.parts?, Mode.parse, hm, bind, Except.bind]
    have ht := ofText?_eq_none_iff.1 hm
    rw [hp]
    constructor
    · rintro ⟨⟩
      exact .unknownMode ht
    · rintro (hr | - | hr)
      · exact absurd hid hr
      · rfl
      · exact absurd hr ht
  | some mode =>
    have ht : Text.trim request.mode ∈ modeNames := by
      by_contra hc
      rw [ofText?_eq_none_iff.2 hc] at hm
      cases hm
    have hp : request.parts? = .error e ↔ Request.collect request.slots = .error e := by
      cases hc : Request.collect request.slots <;>
        simp [Request.parts?, Mode.parse, hm, hc, bind, Except.bind, pure, Except.pure]
    rw [hp, Request.collect_eq_error_iff]
    constructor
    · rintro ⟨slot, value, hs, rfl⟩
      exact .inputNotText ht hs
    · rintro (hr | hr | ⟨-, hs⟩)
      · exact absurd hid hr
      · exact absurd ht hr
      · exact ⟨_, _, hs, rfl⟩

/-! ## Single requests -/

section
variable {σ : Type} [Source σ] {id : Text} {request : Request} {e : NodeError}

theorem run_evaluate_of_unknown (h : id ∉ nodeIds) (s : σ) :
    (builtin.evaluate id request).run s =
      ⟨.error (.unknownNodeType id), s, [], [.notice (.unknownNodeType id)]⟩ := by
  have hg : builtin.get? id = none := by
    have hi : ∀ evaluator ∈ builtin.evaluators, evaluator.typeId ∈ nodeIds := by
      rw [evaluators_builtin]
      simp only [List.forall_mem_cons]
      exact ⟨by decide, by decide, by decide, nofun⟩
    refine List.find?_eq_none.2 fun evaluator he hid => h ?_
    exact of_decide_eq_true hid ▸ hi evaluator he
  rw [evaluate, hg]
  rfl

/-- A refused request is answered with the reason. Nothing is drawn. -/
theorem Refuses.run_evaluate (h : Refuses id request e) (s : σ) :
    ∃ reports, (builtin.evaluate id request).run s = ⟨.error e, s, [], reports⟩ := by
  have hc (hp : Refuses "prompt_chain".toList request e) :
      ∃ reports, (builtin.evaluate "prompt_chain".toList request).run s =
        ⟨.error e, s, [], reports⟩ :=
    Evaluator.run_chain_of_error .log (parts?_eq_error_iff.2 hp) s
  cases h with
  | unknownNodeType h => exact ⟨_, run_evaluate_of_unknown h s⟩
  | unknownMode h => exact hc (.unknownMode h)
  | inputNotText h hs => exact hc (.inputNotText h hs)

theorem refuses_of_value_evaluate {s : σ}
    (h : ((builtin.evaluate id request).run s).value = .error e) : Refuses id request e := by
  by_cases hid : id ∈ nodeIds
  · simp only [nodeIds, List.mem_cons, List.not_mem_nil, or_false] at hid
    rcases hid with rfl | rfl | rfl
    · cases hp : request.parts? with
      | error e' =>
        obtain ⟨reports, hr⟩ := Evaluator.run_chain_of_error .log hp s
        have he : ((builtin.evaluate "prompt_chain".toList request).run s).value = .error e' :=
          congrArg Draw.Outcome.value hr
        obtain rfl := Except.error.inj (he.symm.trans h)
        exact parts?_eq_error_iff.1 hp
      | ok p =>
        obtain ⟨response, hr⟩ := Evaluator.exists_value_chain .log hp s
        cases hr.symm.trans h
    · cases (value_evaluate_simple request s).symm.trans h
    · cases h
  · rw [run_evaluate_of_unknown hid] at h
    obtain rfl := Except.error.inj h
    exact .unknownNodeType hid

end

/-! ## Sequences of requests -/

/-- The outcomes of evaluations that share one source, each with the choices made in it. -/
def outcomes {σ : Type} [Source σ] (r : Registry) :
    List (Text × Request) → σ → List (Draw.Outcome σ (Except NodeError Response))
  | [], _ => []
  | (id, request) :: calls, s =>
    let o := (r.evaluate id request).run s
    o :: outcomes r calls o.source

/-- The calls that do not fail when all of them are evaluated on one source. -/
def answered {σ : Type} [Source σ] (r : Registry) (calls : List (Text × Request)) (s : σ) :
    List (Text × Request) :=
  ((calls.zip (r.outcomes calls s)).filter fun (_, o) => o.value.isOk).map Prod.fst

section
variable {σ : Type} [Source σ]

/-- Without the calls that fail, the others have the same outcomes. -/
theorem outcomes_answered (calls : List (Text × Request)) (s : σ) :
    builtin.outcomes (builtin.answered calls s) s =
      (builtin.outcomes calls s).filter fun o => o.value.isOk := by
  induction calls generalizing s with
  | nil => rfl
  | cons call calls ih =>
    obtain ⟨id, request⟩ := call
    have hi := ih ((builtin.evaluate id request).run s).source
    rw [answered] at hi ⊢
    rw [outcomes, List.zip_cons_cons]
    cases hv : ((builtin.evaluate id request).run s).value with
    | ok response =>
      rw [List.filter_cons_of_pos (by simp [hv, Except.isOk, Except.toBool]),
        List.filter_cons_of_pos (by simp [hv, Except.isOk, Except.toBool]), List.map_cons, outcomes,
        hi]
    | error e =>
      obtain ⟨reports, hr⟩ := (refuses_of_value_evaluate hv).run_evaluate s
      rw [hr] at hi ⊢
      rw [List.filter_cons_of_neg (by simp [Except.isOk, Except.toBool]),
        List.filter_cons_of_neg (by simp [Except.isOk, Except.toBool]), hi]

/-- A built-in node fails just for the reasons known beforehand, whatever the source is, and then
nothing is drawn from the source. So in any sequence of calls on one source, those that fail can be
left out without a change to the answers to the others and to the choices made in them. -/
theorem refusals_leave_source :
    (∀ (id : Text) (request : Request) (e : NodeError) (s : σ),
        ((builtin.evaluate id request).run s).value = .error e ↔ Refuses id request e) ∧
      (∀ (id : Text) (request : Request) (e : NodeError) (s : σ),
        ((builtin.evaluate id request).run s).value = .error e →
          ((builtin.evaluate id request).run s).source = s ∧
            ((builtin.evaluate id request).run s).picks = []) ∧
      ∀ (calls : List (Text × Request)) (s : σ),
        builtin.outcomes (builtin.answered calls s) s =
          (builtin.outcomes calls s).filter fun o => o.value.isOk := by
  refine ⟨fun id request e s => ⟨refuses_of_value_evaluate, fun h => ?_⟩,
    fun id request e s h => ?_, outcomes_answered⟩
  · obtain ⟨reports, hr⟩ := h.run_evaluate s
    rw [hr]
  · obtain ⟨reports, hr⟩ := (refuses_of_value_evaluate h).run_evaluate s
    rw [hr]
    exact ⟨rfl, rfl⟩

end

end Registry

end PromptWeave
