import PromptWeave.Node.Builtin

/-! The built-in nodes as the steps that they take, and the slots that they look at. -/

namespace PromptWeave

section
variable {σ : Type} [Source σ]

/-! ## Slots -/

theorem Json.Members.get?_insert (members : Json.Members) (key : Text) (value : Json) :
    (members.insert key value).get? key = some value := by
  induction members with
  | nil => simp [insert, get?]
  | cons m members ih =>
    obtain ⟨k, v⟩ := m
    unfold insert
    split
    · simp [get?]
    split
    · simp [get?]
    · rename_i hk _
      simpa [get?, hk] using ih

theorem Evaluator.firstWire_insert (slots : Json.Members) (wire : Text) :
    firstWire (slots.insert (slotKey 1) (.text wire)) = wire := by
  rw [firstWire, Json.Members.get?_insert]

/-- A request with one input has the settings of its fields, and the wire is that of the input. -/
theorem Request.run_parts_of_one_slot {fields : Request.Fields} {mode : Mode} {wire : Text}
    (hm : Mode.ofText? fields.mode = some mode) (s : σ) :
    (parts { toFields := fields, slots := [(slotKey 1, .text wire)] }).run s =
      ⟨.ok (state { toFields := fields } mode, ⟨fields.text, fields.negText, [wire]⟩), s, [],
        [.notice (.inputsCollected 1)]⟩ := by
  have hc : collect [(slotKey 1, .text wire)] = .ok [wire] := rfl
  simp only [parts, Mode.parse, hm, gather, hc]
  rfl

/-! ## Evaluators -/

namespace Evaluator

theorem evaluate_chain (observer : Observer) (request : Request) :
    (chain observer).evaluate request =
      request.parts >>= fun
        | .error e => pure (.error e)
        | .ok (state, inputs) =>
          Chain.evaluate observer state inputs >>= fun output => pure (.ok (.ofOutput output)) :=
  rfl

theorem evaluate_simple (request : Request) :
    simple.evaluate request =
      Template.resolveLines request.text >>= fun text => pure (.ok ⟨text, text, [], text⟩) :=
  rfl

theorem run_preview (request : Request) (s : σ) :
    (preview.evaluate request).run s =
      let b := (Wire.decode (firstWire request.slots)).bundle
      ⟨.ok ⟨firstWire request.slots, b.positive, b.negative, b.display⟩, s, [], []⟩ :=
  rfl

end Evaluator

theorem Registry.evaluators_builtin :
    builtin.evaluators = [.chain .log, .preview, .simple] :=
  rfl

end

end PromptWeave
