import PromptWeave.Draw.Script
import PromptWeave.Proofs.Chain.Evaluation
import PromptWeave.Proofs.Node.Builtin
import PromptWeave.Proofs.Wire.RoundTrip

/-! What a node sends against what it reports.

The next node reads a bundle off the sent text, while a person and the host see the two reported
channels. Chain nodes write their bundle as a wire, and preview nodes report what they read off the
wire they pass on, so with them the two agree. A simple node sends its text bare, and a text that
has the form of a bundle is taken for one. -/

namespace PromptWeave

/-- The bundle read off the sent text has the reported channels. -/
def Response.Reported (r : Response) : Prop :=
  (Wire.decode r.output).bundle = ⟨r.positive, r.negative⟩

section
variable {σ : Type} [Source σ]

namespace Evaluator

/-! ## The three types of nodes -/

variable {request : Request} {s : σ} {r : Response}

theorem reported_chain {observer : Observer}
    (h : (((chain observer).evaluate request).run s).value = .ok r) : r.Reported := by
  rw [evaluate_chain, Draw.run_bind] at h
  cases hp : (request.parts.run s).value with
  | error e =>
    rw [hp] at h
    nomatch h
  | ok p =>
    obtain ⟨state, inputs⟩ := p
    rw [hp] at h
    simp only [Draw.run_bind, Draw.run_pure] at h
    injection h with h
    subst h
    cases hd : state.disabled with
    | true =>
      rw [Chain.run_evaluate_of_disabled observer _ hd]
      exact congrArg Wire.bundle Wire.decode_nil
    | false =>
      obtain ⟨b, hb⟩ := Chain.exists_value_eq_ofBundle observer
        (request.parts.run s).source inputs hd
      rw [hb]
      exact Wire.bundle_decode_encode b

theorem reported_preview (h : ((preview.evaluate request).run s).value = .ok r) :
    r.Reported := by
  rw [run_preview] at h
  injection h with h
  subst h
  rfl

/-- The text of a simple node carries itself only where it is plain. -/
theorem reported_simple_iff (h : ((simple.evaluate request).run s).value = .ok r) :
    r.Reported ↔
      (Wire.decode ((Template.resolveLines request.text).run s).value).isBundle = false := by
  rw [evaluate_simple, Draw.run_bind, Draw.run_pure] at h
  injection h with h
  subst h
  rw [Wire.isBundle_eq_false_iff]
  exact Wire.bundle_decode_eq_iff

end Evaluator

/-! ## The registry -/

theorem Registry.value_evaluate_simple (request : Request) (s : σ) :
    ((builtin.evaluate Evaluator.simple.typeId request).run s).value =
      let text := ((Template.resolveLines request.text).run s).value
      .ok ⟨text, text, [], text⟩ := by
  show ((Evaluator.simple.evaluate request).run s).value = _
  rw [Evaluator.evaluate_simple, Draw.run_bind, Draw.run_pure]

/-- A built-in node sends what it reports, unless it is a simple node whose text comes out in the
form of a bundle. -/
theorem Registry.reported_iff {id : Text} {request : Request} {s : σ} {r : Response}
    (h : ((builtin.evaluate id request).run s).value = .ok r) :
    r.Reported ↔
      ¬(id = Evaluator.simple.typeId ∧
        (Wire.decode ((Template.resolveLines request.text).run s).value).isBundle) := by
  rw [evaluate] at h
  cases he : builtin.get? id with
  | none =>
    rw [he] at h
    cases h
  | some e =>
    rw [he] at h
    have hid : e.typeId = id := by simpa using List.find?_some he
    have hm := List.mem_of_find?_eq_some he
    rw [evaluators_builtin] at hm
    simp only [List.mem_cons, List.not_mem_nil, or_false] at hm
    subst hid
    rcases hm with rfl | rfl | rfl
    · exact iff_of_true (Evaluator.reported_chain h) fun hs => absurd hs.1 (by decide)
    · exact iff_of_true (Evaluator.reported_preview h) fun hs => absurd hs.1 (by decide)
    · simp [Evaluator.reported_simple_iff h]

end

/-- A list of tags is sent as it is reported. -/
theorem Registry.reported_simple_list :
    let r : Response := ⟨"red, cat".toList, "red, cat".toList, [], "red, cat".toList⟩
    ((builtin.evaluate Evaluator.simple.typeId ⟨{ text := "red | blue, cat".toList }, []⟩).run
        (Script.always 0)).value = .ok r ∧ r.Reported := by
  intro r
  have ht : ((Template.resolveLines "red | blue, cat".toList).run (Script.always 0)).value =
      "red, cat".toList := by decide +kernel
  have h := value_evaluate_simple ⟨{ text := "red | blue, cat".toList }, []⟩ (Script.always 0)
  rw [ht] at h
  exact ⟨h, (Registry.reported_iff h).2 fun hs => absurd hs.2 (by rw [ht]; decide +kernel)⟩

/-- A template that reads like an object: one text is reported, and two others are sent. -/
theorem Registry.not_reported_simple_object :
    let text := "\x7b\"pc_bundle\":1, \"pos\":\"cat\", \"neg\":\"dog\"\x7d".toList
    let r : Response := ⟨text, text, [], text⟩
    ((builtin.evaluate Evaluator.simple.typeId ⟨{ text }, []⟩).run (Script.always 0)).value =
        .ok r ∧
      (Wire.decode r.output).bundle = ⟨"cat".toList, "dog".toList⟩ ∧ ¬r.Reported := by
  intro text r
  have ht : ((Template.resolveLines text).run (Script.always 0)).value = text := by decide +kernel
  have hb : (Wire.decode text).bundle = ⟨"cat".toList, "dog".toList⟩ := by decide +kernel
  refine ⟨?_, hb, fun h => ?_⟩
  · rw [value_evaluate_simple, ht]
  · rw [Response.Reported, hb] at h
    exact absurd h (by decide)

end PromptWeave
