import PromptWeave.Draw.Script
import PromptWeave.Proofs.Chain.Evaluation
import PromptWeave.Proofs.Wire.RoundTrip

/-! Locked nodes.

A node that is locked to an output sends that output again. What is stored are the wire and the
negative text only; the positive text is read off the wire, and the negative one too where the wire
is an object. -/

namespace PromptWeave

namespace Chain

/-- The stored texts of a bundle give the bundle back, in whichever form its wire was written. -/
theorem cachedBundle_of_encode {state : State} {b : Bundle}
    (ho : state.cachedOutput = Wire.encode b) (hn : state.cachedNegative = b.negative) :
    cachedBundle state = b := by
  by_cases h : b.negative = [] ∧ Wire.decode b.positive = .plain b.positive
  · obtain ⟨hb, hp⟩ := h
    -- The wire is the positive text itself, so the negative text has to come from its own store.
    have hw : b.positive = Wire.encode b :=
      Wire.eq_of_decode_eq_plain (Wire.decode_encode_of_plain hb hp)
    simp [cachedBundle, ho, hn, hp, ← hw]
  · simp [cachedBundle, ho, Wire.decode_encode_of_not_plain h, Wire.bundle]

section
variable {σ τ : Type} [Source σ] [Source τ]

/-- A node that is locked to what some node has sent sends it again. Nothing is chosen, and the only
event is that the stored wire was sent; settings and inputs do not matter. -/
theorem run_evaluate_locked (observer observer' : Observer) {state : State}
    (inputs inputs' : Inputs) (s : σ) (t : τ) (mode : Mode) (switchIndex : Nat)
    (hd : state.disabled = false)
    (hw : ((evaluate observer state inputs).run s).value.wire ≠ []) :
    let out := ((evaluate observer state inputs).run s).value
    (evaluate observer' ⟨mode, switchIndex, true, out.wire, out.negative, false⟩
        inputs').run t =
      ⟨out, t, [], observer'.reports (.cacheHit out.wire)⟩ := by
  obtain ⟨b, hb⟩ := exists_value_eq_ofBundle observer s inputs hd
  rw [hb] at hw ⊢
  have hc : isCacheHit ⟨mode, switchIndex, true, (Output.ofBundle b).wire,
      (Output.ofBundle b).negative, false⟩ := by
    simpa [isCacheHit] using hw
  dsimp only
  rw [run_evaluate_of_isCacheHit observer' t rfl hc,
    cachedBundle_of_encode (b := b) rfl rfl]
  rfl

end

/-- A prompt with both channels is sent again in another mode, from another template. -/
theorem run_evaluate_locked_pair :
    let out := ((evaluate .silent {} { text := "cat | hat".toList, negText := "dog".toList }).run
      (Script.always 1)).value
    out.wire ≠ [] ∧
      (evaluate .recording ⟨.combine, 0, true, out.wire, out.negative, false⟩
        { text := "bird".toList }).run (Script.always 0) =
          ⟨out, Script.always 0, [], [.event (.cacheHit out.wire)]⟩ := by
  have hw : ((evaluate .silent {} { text := "cat | hat".toList, negText := "dog".toList }).run
      (Script.always 1)).value.wire ≠ [] := by decide +kernel
  exact ⟨hw, run_evaluate_locked .silent .recording _ { text := "bird".toList } (Script.always 1)
    (Script.always 0) .combine 0 rfl hw⟩

end Chain

end PromptWeave
