import PromptWeave.Proofs.Chain.Line
import PromptWeave.Proofs.Node.Builtin
import PromptWeave.Proofs.Tags.Combine

/-! Nodes that send on what they receive.

The channels of an evaluated node are written sequences whose tags are normal and without
repetitions (`settled_evaluate`). Reading such a channel, merging it with nothing and writing it
again gives the same text in every mode, so that a chain node without templates of its own sends the
bundle it receives (`value_evaluate_of_passes`); a preview node sends the very wire. Along a
sequence of such nodes nothing changes, however long it is (`value_evaluateRelays`). -/

namespace PromptWeave

/-- The channels are written sequences that a merge with nothing does not change. -/
structure Bundle.Settled (b : Bundle) (tags : Channel → Tags) : Prop where
  normal : ∀ channel, (tags channel).Normal
  dedupe : ∀ channel, (tags channel).dedupe = tags channel
  join : ∀ channel, b.channel channel = (tags channel).join

theorem Bundle.ext_channel {a b : Bundle} (h : ∀ channel, a.channel channel = b.channel channel) :
    a = b := by
  obtain ⟨p, n⟩ := a
  obtain ⟨p', n'⟩ := b
  exact congrArg₂ Bundle.mk (h .positive) (h .negative)

theorem Template.resolve_of_blank {template : Text} (h : Text.trim template = []) :
    resolve template = pure [] :=
  if_pos h

namespace Chain

/-- The node is evaluated, and a switch points to the first input. -/
structure Passes (state : State) : Prop where
  not_disabled : state.disabled = false
  not_isCacheHit : isCacheHit state = false
  switchIndex : state.mode = .switch → state.switchIndex = 1

section
variable {σ : Type} [Source σ] {observer : Observer} {state : State} {inputs : Inputs} {s : σ}

/-- What an evaluation sends is settled, whatever the inputs are and the source answers. -/
theorem settled_evaluate (observer : Observer) (inputs : Inputs) (s : σ)
    (hd : state.disabled = false) (hc : isCacheHit state = false) :
    ∃ b tags, ((evaluate observer state inputs).run s).value = .ofBundle b ∧
      b.Settled tags := by
  have ht (channel : Channel) : ∃ tags : Tags, tags.Normal ∧ tags.dedupe = tags ∧
      ((evaluate observer state inputs).run s).value.channel channel = tags.join := by
    rw [evaluate_of_not_isCacheHit observer hd hc]
    obtain ⟨t, hv, -⟩ := exists_combine observer s state inputs channel
    exact ⟨_, (Tags.normal_combine (Tags.normal_parse _) normal_inputTags _ _ t).dedupe,
      Tags.dedupe_dedupe _, hv⟩
  choose tags hn hi hj using ht
  obtain ⟨b, hb⟩ := exists_value_eq_ofBundle observer s inputs hd
  refine ⟨b, tags, hb, hn, hi, fun channel => ?_⟩
  rw [← hj channel, hb, channel_ofBundle]

/-- A merge of nothing with the tags of one input gives these tags. -/
theorem value_combine_empty {tags : Tags} (hp : Passes state)
    (hr : ((Tags.combine state.mode .empty (if tags = .empty then [] else [tags])
      state.switchIndex).run s).InRange) :
    ((Tags.combine state.mode .empty (if tags = .empty then [] else [tags])
      state.switchIndex).run s).value = tags := by
  cases hm : state.mode with
  | combine =>
    by_cases ht : tags = .empty
    · rw [if_pos ht, ht]
      rfl
    · have hi : tags.isEmpty = false := by
        obtain ⟨_ | ⟨t, ts⟩⟩ := tags
        · exact absurd rfl ht
        · rfl
      rw [if_neg ht, Tags.combine, Draw.run_pure, List.filter_cons_of_neg (by decide),
        List.filter_cons_of_pos (by simpa), List.filter_nil, Tags.interleave_singleton]
  | randomize =>
    have hf : Forwards state := ⟨hp.not_disabled, hp.not_isCacheHit, .inl hm⟩
    rw [← hm]
    exact value_combine hf .empty tags hr
  | switch =>
    have hf : Forwards state :=
      ⟨hp.not_disabled, hp.not_isCacheHit, .inr ⟨hm, hp.switchIndex hm⟩⟩
    rw [← hm]
    exact value_combine hf .empty tags hr

/-- A node without templates of its own that receives the wire of a settled bundle sends this
bundle. -/
theorem value_evaluate_of_passes {b : Bundle} {tags : Channel → Tags} (hp : Passes state)
    (hb : b.Settled tags) (ht : ∀ channel, Text.trim (inputs.template channel) = [])
    (hw : inputs.wires = [Wire.encode b])
    (hr : ((evaluate observer state inputs).run s).InRange) :
    ((evaluate observer state inputs).run s).value = .ofBundle b := by
  obtain ⟨b', hb'⟩ := exists_value_eq_ofBundle observer s inputs hp.not_disabled
  rw [hb']
  refine congrArg Output.ofBundle (Bundle.ext_channel fun channel => ?_)
  rw [← channel_ofBundle b', ← hb', hb.join channel]
  rw [evaluate_of_not_isCacheHit observer hp.not_disabled hp.not_isCacheHit] at hr ⊢
  obtain ⟨t, hv, hs⟩ := exists_combine observer s state inputs channel
  have hi : inputTags inputs.wires channel = if tags channel = .empty then [] else [tags channel] :=
    hw ▸ carries_wire hb.normal hb.join channel
  have ho : Tags.parse (resolvedText observer state inputs s channel) = .empty := by
    rw [resolvedText, Template.resolve_of_blank (ht channel)]
    rfl
  rw [hi, ho] at hv hs
  rw [hv, value_combine_empty hp fun p h => hr p (hs h), hb.dedupe]

end

end Chain

/-! ## Requests -/

/-- A node with one input that is to send on what it receives: a chain node with the given fields,
or a preview node with the given request. -/
inductive Relay where
  | chain (fields : Request.Fields)
  | preview (request : Request)

namespace Relay

def typeId : Relay → Text
  | chain _ => (Evaluator.chain .log).typeId
  | preview _ => Evaluator.preview.typeId

/-- The request with a wire connected to the input. -/
def request (wire : Text) : Relay → Request
  | chain fields => { toFields := fields, slots := [(slotKey 1, .text wire)] }
  | preview request => request.withInput 1 wire

def evaluate (wire : Text) (relay : Relay) : Draw (Except NodeError Response) :=
  Registry.builtin.evaluate relay.typeId (relay.request wire)

/-- The templates of a chain node are blank, the node is evaluated, and a switch points to the only
input. -/
def AddsNothing : Relay → Prop
  | chain fields =>
    (∃ mode, Mode.ofText? fields.mode = some mode ∧
        (mode = .switch → fields.switchIndex = 1)) ∧
      Text.trim fields.text = [] ∧ Text.trim fields.negText = [] ∧ fields.disabled = false ∧
      (fields.locked = false ∨ fields.cachedOutput = [])
  | preview _ => True

end Relay

/-- The wire for the next node. A node that failed sends the empty text. -/
def sentWire : Except NodeError Response → Text
  | .ok r => r.output
  | .error _ => []

/-- Evaluates nodes in order, each with the wire of the one before it. -/
def evaluateRelays : (wire : Text) → List Relay → Draw (List (Except NodeError Response))
  | _, [] => pure []
  | wire, relay :: relays => do
    let result ← relay.evaluate wire
    let results ← evaluateRelays (sentWire result) relays
    return result :: results

section
variable {σ : Type} [Source σ] {s : σ}

/-- One node of a sequence sends the bundle that it receives and reports its channels. -/
theorem Relay.value_evaluate {b : Bundle} {tags : Channel → Tags} (hb : b.Settled tags)
    {relay : Relay} (hn : relay.AddsNothing)
    (hr : ((relay.evaluate (Wire.encode b)).run s).InRange) :
    ((relay.evaluate (Wire.encode b)).run s).value = .ok (.ofOutput (.ofBundle b)) := by
  cases relay with
  | preview request =>
    show ((Evaluator.preview.evaluate (request.withInput 1 (Wire.encode b))).run s).value = _
    rw [Evaluator.run_preview, Request.withInput, Evaluator.firstWire_insert,
      Wire.bundle_decode_encode]
    rfl
  | chain fields =>
    obtain ⟨⟨mode, hm, hi⟩, ht, ht', hd, hc⟩ := hn
    let request : Request := { toFields := fields, slots := [(slotKey 1, .text (Wire.encode b))] }
    change (((Evaluator.chain .log).evaluate request).run s).InRange at hr
    show (((Evaluator.chain .log).evaluate request).run s).value = _
    rw [Evaluator.evaluate_chain, Draw.inRange_bind, Request.run_parts_of_one_slot hm s,
      Draw.inRange_bind] at hr
    rw [Evaluator.evaluate_chain, Draw.run_bind, Request.run_parts_of_one_slot hm s, Draw.run_bind]
    have hp : Chain.Passes (Request.state { toFields := fields } mode) := by
      refine ⟨hd, ?_, fun h => by simp [Request.state, hi h]⟩
      rcases hc with hc | hc <;> simp [Chain.isCacheHit, Request.state, hc]
    have hv := Chain.value_evaluate_of_passes hp hb (fun channel => by cases channel <;> assumption)
      rfl hr.2.1
    exact congrArg (fun o => Except.ok (Response.ofOutput o)) hv

variable {τ : Type} [Source τ] {observer : Observer} {state : State} {inputs : Inputs}

/-- Along a sequence of nodes that add nothing, each node sends and reports what the first one
received. -/
theorem value_evaluateRelays_of_settled {b : Bundle} {tags : Channel → Tags} (hb : b.Settled tags)
    {relays : List Relay} (hn : ∀ relay ∈ relays, relay.AddsNothing)
    (hr : ((evaluateRelays (Wire.encode b) relays).run s).InRange) :
    ((evaluateRelays (Wire.encode b) relays).run s).value =
      relays.map fun _ => .ok (.ofOutput (.ofBundle b)) := by
  induction relays generalizing s with
  | nil => rfl
  | cons relay relays ih =>
    rw [evaluateRelays, Draw.inRange_bind] at hr
    have hv := Relay.value_evaluate hb (hn relay List.mem_cons_self) hr.1
    rw [hv, Draw.inRange_bind] at hr
    have hi := ih (fun r h => hn r (.tail _ h)) hr.2.1
    rw [evaluateRelays, Draw.run_bind, hv, Draw.run_bind, Draw.run_pure]
    exact congrArg₂ List.cons rfl hi

/-- What an evaluated node sends goes through any sequence of nodes that add nothing as it is: each
of them sends the same wire and reports the same texts. -/
theorem value_evaluateRelays (t : τ) (hd : state.disabled = false)
    (hc : Chain.isCacheHit state = false) {relays : List Relay}
    (hn : ∀ relay ∈ relays, relay.AddsNothing)
    (hr : ((evaluateRelays ((Chain.evaluate observer state inputs).run t).value.wire relays).run
      s).InRange) :
    let out := ((Chain.evaluate observer state inputs).run t).value
    ((evaluateRelays out.wire relays).run s).value = relays.map fun _ =>
      .ok ⟨out.wire, out.positive, out.negative, out.display⟩ := by
  obtain ⟨b, tags, hb, hs⟩ := Chain.settled_evaluate observer inputs t hd hc
  rw [hb] at hr ⊢
  exact value_evaluateRelays_of_settled hs hn hr

end

/-- A bundle with both channels, whose tags came from a template and from an input, goes through
nodes of all three modes and through a preview node. -/
theorem value_evaluateRelays_both_channels :
    let inputs : Inputs :=
      ⟨"cat | hat, [BREAK]".toList, "dog".toList, [" Hat,scarf\u001eneg\u001eDOG, fog ".toList]⟩
    let out := ((Chain.evaluate .silent {} inputs).run (Script.always 7)).value
    let relays : List Relay := [
      .chain {},
      .preview ⟨{}, [(slotKey 1, .null)]⟩,
      .chain { mode := "Combine".toList, text := " \n".toList, locked := true },
      .chain { mode := " Switch ".toList, negText := "\t".toList, cachedOutput := "owl".toList }]
    (∀ relay ∈ relays, relay.AddsNothing) ∧
      ((evaluateRelays out.wire relays).run (Script.always 7)).InRange ∧
      ((evaluateRelays out.wire relays).run (Script.always 7)).value = relays.map fun _ =>
        .ok ⟨out.wire, out.positive, out.negative, out.display⟩ := by
  intro inputs out relays
  have hn : ∀ relay ∈ relays, relay.AddsNothing := by
    simp only [relays, List.forall_mem_cons]
    refine ⟨⟨⟨.randomize, by decide, by decide⟩, by decide, by decide, rfl, .inl rfl⟩,
      trivial, ⟨⟨.combine, by decide, by decide⟩, by decide, by decide, rfl, .inr rfl⟩,
      ⟨⟨.switch, by decide, fun _ => rfl⟩, by decide, by decide, rfl, .inl rfl⟩, nofun⟩
  have hr : ((evaluateRelays out.wire relays).run (Script.always 7)).InRange := by
    show ∀ p ∈ ((evaluateRelays out.wire relays).run (Script.always 7)).picks, p.index < p.count
    decide +kernel
  exact ⟨hn, hr, value_evaluateRelays (Script.always 7) rfl rfl hn hr⟩

end PromptWeave
