import Mathlib.Logic.Function.Basic
import PromptWeave.Proofs.Chain.Evaluation
import PromptWeave.Proofs.Draw.Reports
import PromptWeave.Proofs.Wire.RoundTrip

/-! What is seen of evaluations.

Each evaluation has a trace of one of three forms, and the tags that are seen are those which are
sent (`trace_evaluate`). An observer that is shared by several evaluations sees one trace after the
other, and nothing of what is sent or chosen depends on who looks on (`recorded_outcomes`). -/

namespace PromptWeave

/-! ## Events of a run -/

namespace Draw

section
variable {σ α β : Type} [Source σ]

theorem events_bind (x : Draw α) (f : α → Draw β) (s : σ) :
    ((x >>= f).run s).events =
      (x.run s).events ++ ((f (x.run s).value).run (x.run s).source).events := by
  rw [run_bind]
  exact List.filterMap_append

theorem Tells.events_eq_nil {x : Draw α} (h : x.Tells (Report.EventIs fun _ => False)) (s : σ) :
    (x.run s).events = [] := by
  refine List.filterMap_eq_nil_iff.2 fun r hr => ?_
  cases r with
  | event e => exact (h.reports s _ hr e rfl).elim
  | notice n => rfl

end

end Draw

/-- The text is that of the tags, which are read off it again, and none of them is repeated. -/
structure Tags.Spells (tags : Tags) (text : Text) : Prop where
  join : tags.join = text
  parse : Tags.parse text = tags
  dedupe : tags.dedupe = tags

namespace Chain

/-- The events of an evaluation with the given settings that ends in an output. On the normal path
the templates of the channels resolve to `texts`. -/
inductive Trace (state : State) (texts : Channel → Text) (out : Output) : List Event → Prop
  | disabled : state.disabled = true → out = .disabled → Trace state texts out [.disabled]
  | cacheHit : state.disabled = false → isCacheHit state = true →
      Trace state texts out [.cacheHit out.wire]
  | evaluated {positive negative : Tags} : state.disabled = false → isCacheHit state = false →
      positive.Spells out.positive → negative.Spells out.negative →
      Trace state texts out [
        .resolved .positive (texts .positive), .combined .positive state.mode positive,
        .resolved .negative (texts .negative), .combined .negative state.mode negative,
        .finished out.wire]

section
variable {σ : Type} [Source σ] (state : State) (inputs : Inputs) (s : σ)

/-! ## One evaluation -/

theorem events_evaluateChannel (channel : Channel) (template : Text) (inputs : List Tags) :
    ((evaluateChannel .recording state channel template inputs).run s).events =
      let t := (Template.resolve template).run s
      let m := (Tags.combine state.mode (Tags.parse t.value) inputs state.switchIndex).run t.source
      [.resolved channel t.value, .combined channel state.mode m.value.dedupe] := by
  have ht : ((Template.resolve template).run s).events = [] :=
    (Template.tells_resolve template).events_eq_nil s
  have hm (own : Tags) (s : σ) :
      ((Tags.combine state.mode own inputs state.switchIndex).run s).events = [] :=
    (Tags.tells_combine state.mode own inputs state.switchIndex).events_eq_nil s
  simp only [evaluateChannel, Draw.events_bind, ht, hm, Observer.run_see, List.nil_append]
  rfl

theorem events_evaluateChannels :
    let all := (evaluateChannels .recording state inputs).run s
    all.events = [
      .resolved .positive (resolvedText .recording state inputs s .positive),
      .combined .positive state.mode (mergeRun .recording state inputs s .positive).value.dedupe,
      .resolved .negative (resolvedText .recording state inputs s .negative),
      .combined .negative state.mode (mergeRun .recording state inputs s .negative).value.dedupe,
      .finished all.value.wire] := by
  dsimp only
  rw [run_evaluateChannels]
  have hp := events_evaluateChannel state s .positive inputs.text (inputTags inputs.wires .positive)
  have hn (s : σ) := events_evaluateChannel state s .negative inputs.negText
    (inputTags inputs.wires .negative)
  simp only [Draw.Outcome.events, List.filterMap_append] at hp hn ⊢
  rw [hp, hn]
  rfl

theorem spells_channel (channel : Channel) :
    (mergeRun .recording state inputs s channel).value.dedupe.Spells
      (((evaluateChannels .recording state inputs).run s).value.channel channel) where
  join := (channel_eq_join .recording s state inputs channel).symm
  parse := parse_channel .recording s state inputs channel
  dedupe := Tags.dedupe_dedupe _

/-- A recorded evaluation leaves one trace, and the bundle of the wire that is sent has both
channels. -/
theorem trace_evaluate :
    let o := (evaluate .recording state inputs).run s
    Trace state (resolvedText .recording state inputs s) o.value o.events ∧
      (Wire.decode o.value.wire).bundle = ⟨o.value.positive, o.value.negative⟩ := by
  dsimp only
  cases hd : state.disabled with
  | true =>
    rw [run_evaluate_of_disabled .recording s hd]
    exact ⟨.disabled hd rfl, congrArg Wire.bundle Wire.decode_nil⟩
  | false =>
    constructor
    · cases hc : isCacheHit state with
      | true =>
        rw [run_evaluate_of_isCacheHit .recording s hd hc]
        exact .cacheHit hd hc
      | false =>
        rw [evaluate_of_not_isCacheHit .recording hd hc, events_evaluateChannels]
        exact .evaluated hd hc (spells_channel state inputs s .positive)
          (spells_channel state inputs s .negative)
    · obtain ⟨b, hb⟩ := exists_value_eq_ofBundle .recording s inputs hd
      rw [hb]
      exact Wire.bundle_decode_encode b

/-! ## Who looks on -/

variable (observer : Observer)

theorem mute_evaluateChannel (channel : Channel) (template : Text) (inputs : List Tags) :
    (evaluateChannel observer state channel template inputs).mute =
      (evaluateChannel .silent state channel template inputs).mute := by
  simp only [evaluateChannel, Draw.mute_bind, Observer.mute_see]

theorem mute_evaluate :
    (evaluate observer state inputs).mute = (evaluate .silent state inputs).mute := by
  simp only [evaluate, evaluateChannels]
  split
  · simp only [Draw.mute_bind, Observer.mute_see]
  split
  · simp only [Draw.mute_bind, Observer.mute_see]
  · simp only [Draw.mute_bind, Observer.mute_see, mute_evaluateChannel]

end

/-! ## Sequences of evaluations -/

/-- An evaluation that is to be made: the settings and the inputs of a node, and which of the
sources it draws from. -/
structure Call where
  state : State := {}
  inputs : Inputs := {}
  source : Nat := 0

/-- What a recording observer holds after it has seen runs in order, when it held `kept` before:
each event that is seen is put behind the earlier ones. -/
def recorded {σ : Type} (kept : List Event) (outcomes : List (Draw.Outcome σ Output)) :
    List Event :=
  outcomes.foldl (fun kept o => o.events.foldl (fun kept event => kept ++ [event]) kept) kept

theorem recorded_eq {σ : Type} (kept : List Event) (outcomes : List (Draw.Outcome σ Output)) :
    recorded kept outcomes = kept ++ (outcomes.map Draw.Outcome.events).flatten := by
  have hf (kept events : List Event) :
      events.foldl (fun kept event => kept ++ [event]) kept = kept ++ events := by
    induction events generalizing kept with
    | nil => exact (List.append_nil kept).symm
    | cons event events ih => rw [List.foldl_cons, ih, List.append_assoc, List.singleton_append]
  induction outcomes generalizing kept with
  | nil => exact (List.append_nil kept).symm
  | cons o outcomes ih =>
    rw [recorded, List.foldl_cons, hf]
    exact (ih _).trans (List.append_assoc ..)

section
variable {σ : Type} [Source σ]

/-- The outcomes of evaluations in order. Each goes on with its source where the last one that drew
from it has left off. -/
def outcomes (observer : Observer) : List Call → (Nat → σ) → List (Draw.Outcome σ Output)
  | [], _ => []
  | call :: calls, sources =>
    let o := (evaluate observer call.state call.inputs).run (sources call.source)
    o :: outcomes observer calls (Function.update sources call.source o.source)

/-- Each call gives an outcome of its node, from some state of its source. -/
theorem forall₂_outcomes {P : Call → Draw.Outcome σ Output → Prop} (observer : Observer)
    (h : ∀ (call : Call) (s : σ), P call ((evaluate observer call.state call.inputs).run s))
    (calls : List Call) (sources : Nat → σ) :
    List.Forall₂ P calls (outcomes observer calls sources) := by
  induction calls generalizing sources with
  | nil => exact .nil
  | cons call calls ih => exact .cons (h call _) (ih _)

theorem outcomes_congr (observer observer' : Observer) (calls : List Call) (sources : Nat → σ) :
    List.Forall₂ (fun o o' => o.value = o'.value ∧ o.source = o'.source ∧ o.picks = o'.picks)
      (outcomes observer calls sources) (outcomes observer' calls sources) := by
  induction calls generalizing sources with
  | nil => exact .nil
  | cons call calls ih =>
    have hm := (mute_evaluate call.state call.inputs observer).trans
      (mute_evaluate call.state call.inputs observer').symm
    have hr := Draw.run_congr_of_mute hm (sources call.source)
    refine .cons hr ?_
    rw [hr.2.1]
    exact ih _

/-- What a recording observer holds after evaluations that share it are their traces in order, one
for each evaluation. What is sent, what is chosen and what is left of the sources is the same
whoever looks on. -/
theorem recorded_outcomes (calls : List Call) (sources : Nat → σ) :
    let os := outcomes .recording calls sources
    recorded [] os = (os.map Draw.Outcome.events).flatten ∧
      List.Forall₂ (fun call o => ∃ s : σ,
        o = (evaluate .recording call.state call.inputs).run s ∧
        Trace call.state (resolvedText .recording call.state call.inputs s) o.value o.events ∧
        (Wire.decode o.value.wire).bundle = ⟨o.value.positive, o.value.negative⟩) calls os ∧
      ∀ observer, List.Forall₂
        (fun o o' => o.value = o'.value ∧ o.source = o'.source ∧ o.picks = o'.picks) os
        (outcomes observer calls sources) := by
  refine ⟨recorded_eq [] _, ?_, fun observer => outcomes_congr _ observer calls sources⟩
  exact forall₂_outcomes .recording
    (fun call s => ⟨s, rfl, trace_evaluate call.state call.inputs s⟩) calls sources

end

end Chain

end PromptWeave
