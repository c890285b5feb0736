import PromptWeave.Draw.Script
import PromptWeave.Proofs.Chain.Questions
import PromptWeave.Proofs.Draw.Reports

/-! What of its inputs a node depends on.

A channel depends on its template and on the values that the wires bring to it, not on the wires
themselves (`evaluate_congr`). The positive channel comes first, so nothing of the negative one can
change its choices either (`run_evaluate_congr`). A wire that brings only blanks is as good as none,
wherever it stands (`evaluate_insert_blank`). -/

namespace PromptWeave

/-! ## Events of a channel -/

/-- The channel that an event is about. -/
def Event.channel? : Event → Option Channel
  | resolved channel _ => some channel
  | combined channel _ _ => some channel
  | _ => none

/-- The events of a channel among the reports of a run. -/
def Draw.Outcome.channelEvents {σ α : Type} (o : Outcome σ α) (channel : Channel) :
    List Event :=
  (o.reports.filterMap Report.event?).filter fun e => e.channel? = some channel

/-- Reports that tell of other events alone hold no events of a channel. -/
theorem filter_channel_eq_nil {channel : Channel} {P : Event → Prop}
    (hp : ∀ e, P e → e.channel? ≠ some channel) {reports : List Report}
    (h : ∀ r ∈ reports, r.EventIs P) :
    (reports.filterMap Report.event?).filter (fun e => e.channel? = some channel) = [] := by
  refine List.filter_eq_nil_iff.2 fun e he => ?_
  obtain ⟨r, hr, he⟩ := List.mem_filterMap.1 he
  simpa using hp e (h r hr e he)

namespace Chain

/-! ## Values -/

section
variable {wires wires' : List Text} {channel : Channel}

theorem inputTags_eq_map (wires : List Text) (channel : Channel) :
    inputTags wires channel = (inputValues wires channel).map Tags.parse :=
  rfl

theorem inputTags_congr (h : inputValues wires channel = inputValues wires' channel) :
    inputTags wires channel = inputTags wires' channel := by
  rw [inputTags_eq_map, h, inputTags_eq_map]

/-- Nothing but blanks is read off a wire. -/
def BlankWire (wire : Text) : Prop :=
  ∀ channel, ∀ c ∈ (Wire.decode wire).bundle.channel channel, Text.isBlank c

theorem inputValues_append (wires wires' : List Text) (channel : Channel) :
    inputValues (wires ++ wires') channel =
      inputValues wires channel ++ inputValues wires' channel := by
  simp [inputValues, channelValues]

/-- A wire with nothing but blanks brings no value to any channel. -/
theorem inputValues_cons_of_blankWire {wire : Text} (h : BlankWire wire) (wires : List Text)
    (channel : Channel) : inputValues (wire :: wires) channel = inputValues wires channel := by
  simp [inputValues, channelValues, Text.trim_eq_nil_of_blank (h channel)]

end

/-! ## Two evaluations -/

section
variable (observer : Observer) (state : State) {inputs inputs' : Inputs}

/-- The evaluation of a node is settled by its settings, its templates and the values of both
channels. -/
theorem evaluate_congr (ht : ∀ channel, inputs.template channel = inputs'.template channel)
    (hv : ∀ channel, inputValues inputs.wires channel = inputValues inputs'.wires channel) :
    evaluate observer state inputs = evaluate observer state inputs' := by
  have hp : inputs.text = inputs'.text := ht .positive
  have hn : inputs.negText = inputs'.negText := ht .negative
  have hc : evaluateChannels observer state inputs = evaluateChannels observer state inputs' := by
    have hi (channel : Channel) := inputTags_congr (hv channel)
    simp only [inputTags] at hi
    simp only [evaluateChannels, hp, hn, hi]
  rw [evaluate, evaluate, hc]

/-- A wire with nothing but blanks changes nothing. -/
theorem evaluate_insert_blank {wire : Text} (h : BlankWire wire) (text negText : Text)
    (before after : List Text) :
    evaluate observer state ⟨text, negText, before ++ wire :: after⟩ =
      evaluate observer state ⟨text, negText, before ++ after⟩ := by
  refine evaluate_congr observer state (fun channel => ?_) fun channel => ?_
  · cases channel <;> rfl
  · rw [inputValues_append, inputValues_cons_of_blankWire h, ← inputValues_append]

end

/-! ## One channel -/

section
variable {σ : Type} [Source σ] (observer : Observer) {state : State} {inputs inputs' : Inputs}
  (s : σ)

theorem tells_evaluateChannel {observer : Observer} (ho : observer.Truthful) (state : State)
    (channel : Channel) (template : Text) (inputs : List Tags) :
    (evaluateChannel observer state channel template inputs).Tells
      (Report.EventIs fun e => e.channel? = some channel) := by
  have hs {event : Event} (h : event.channel? = some channel) :
      (observer.see event).Tells (Report.EventIs fun e => e.channel? = some channel) :=
    ho.tells_see h
  refine (Template.tells_resolve template).bind fun text => (hs rfl).bind fun _ => ?_
  exact (Tags.tells_combine ..).bind fun merged => (hs rfl).bind fun _ => Draw.tells_pure _

/-- The events of the positive channel are those of its own evaluation. -/
theorem channelEvents_evaluateChannels {observer : Observer} (ho : observer.Truthful)
    (state : State) (inputs : Inputs) :
    ((evaluateChannels observer state inputs).run s).channelEvents .positive =
      ((evaluateChannel observer state .positive inputs.text
        (inputTags inputs.wires .positive)).run s).channelEvents .positive := by
  rw [run_evaluateChannels]
  dsimp only
  generalize (evaluateChannel observer state .positive inputs.text
    (inputTags inputs.wires .positive)).run s = p
  have hn : ((evaluateChannel observer state .negative inputs.negText
      (inputTags inputs.wires .negative)).run p.source).channelEvents .positive = [] :=
    filter_channel_eq_nil (fun e he => by simp [he])
      ((tells_evaluateChannel ho state .negative _ _).reports p.source)
  have hf (wire : Text) : ((observer.reports (.finished wire)).filterMap Report.event?).filter
      (fun e => e.channel? = some .positive) = [] :=
    filter_channel_eq_nil (fun e he => by simp [he, Event.channel?]) (ho _)
  rw [Draw.Outcome.channelEvents] at hn ⊢
  rw [List.filterMap_append, List.filterMap_append, List.filter_append, List.filter_append, hn, hf,
    List.append_nil]
  exact List.append_nil _

/-- The events of the positive channel depend on its template and its values alone. -/
theorem channelEvents_evaluate_congr {observer : Observer} (ho : observer.Truthful)
    (hd : state.disabled = false) (hc : isCacheHit state = false)
    (ht : inputs.text = inputs'.text)
    (hv : inputValues inputs.wires .positive = inputValues inputs'.wires .positive) :
    ((evaluate observer state inputs).run s).channelEvents .positive =
      ((evaluate observer state inputs').run s).channelEvents .positive := by
  rw [evaluate_of_not_isCacheHit observer hd hc, evaluate_of_not_isCacheHit observer hd hc,
    channelEvents_evaluateChannels s ho, channelEvents_evaluateChannels s ho, ← ht,
    ← inputTags_congr hv]

/-- What is sent on the positive channel, the events of it and the choices made for it depend on its
template and on the positive values of the wires alone, and everything depends on the templates and
the values of both channels alone, whoever looks on. The events are those that are recorded, or that
any truthful observer tells of. A wire with nothing but blanks may stand anywhere among the others:
it changes nothing, whatever the settings are. -/
theorem run_evaluate_congr (hd : state.disabled = false) (hc : isCacheHit state = false)
    (ht : inputs.text = inputs'.text)
    (hv : inputValues inputs.wires .positive = inputValues inputs'.wires .positive) :
    let o := (evaluate observer state inputs).run s
    let o' := (evaluate observer state inputs').run s
    let recorded (inputs : Inputs) :=
      ((evaluate .recording state inputs).run s).channelEvents .positive
    (o.value.positive = o'.value.positive ∧
        recorded inputs = recorded inputs' ∧
        (observer.Truthful → o.channelEvents .positive = o'.channelEvents .positive) ∧
        ∃ positive negative negative',
          o.picks = positive ++ negative ∧ o'.picks = positive ++ negative' ∧
            positive.map Pick.count = channelCounts state inputs .positive ∧
            negative.map Pick.count = channelCounts state inputs .negative ∧
            negative'.map Pick.count = channelCounts state inputs' .negative) ∧
      (inputs.negText = inputs'.negText →
        inputValues inputs.wires .negative = inputValues inputs'.wires .negative → o = o') ∧
      ∀ (settings : State) (text negText : Text) (before after : List Text) (wire : Text),
        BlankWire wire →
          evaluate observer settings ⟨text, negText, before ++ wire :: after⟩ =
            evaluate observer settings ⟨text, negText, before ++ after⟩ := by
  dsimp only
  refine ⟨?_, fun hn hv' => ?_, fun settings text negText before after wire h =>
    evaluate_insert_blank observer settings h text negText before after⟩
  · have he {watcher : Observer} (hw : watcher.Truthful) :=
      channelEvents_evaluate_congr s hw hd hc ht hv
    have hp := (asks_evaluateChannel observer state inputs .positive).map_count s
    have hw : Observer.recording.Truthful := Observer.truthful_of_mem (by simp)
    refine and_left_comm.1 ⟨he hw, and_left_comm.1 ⟨he, ?_⟩⟩
    rw [evaluate_of_not_isCacheHit observer hd hc, evaluate_of_not_isCacheHit observer hd hc,
      run_evaluateChannels, run_evaluateChannels, ← ht, ← inputTags_congr hv]
    exact ⟨rfl, _, _, _, rfl, rfl, hp,
      (asks_evaluateChannel observer state inputs .negative).map_count _,
      (asks_evaluateChannel observer state inputs' .negative).map_count _⟩
  · rw [evaluate_congr observer state (Channel.rec ht hn) (Channel.rec hv hv')]

end

/-- The wires of both nodes bring the same two values to the positive channel, in different forms
and among blank ones, and differ in the negative one. -/
theorem run_evaluate_congr_forms :
    let inputs : Inputs := ⟨"cat | hat".toList, "dog".toList,
      ["red, Cat".toList, "blue\u001eneg\u001edark".toList]⟩
    let inputs' : Inputs := ⟨"cat | hat".toList, [],
      [" \u001eneg\u001e ".toList,
        "\x7b\"pc_bundle\":1,\"pos\":\" red, Cat\",\"neg\":\"fog\"\x7d".toList,
        "\u001eneg\u001elow".toList, "blue ".toList]⟩
    let o := (evaluate .recording {} inputs).run (Script.always 1)
    let o' := (evaluate .recording {} inputs').run (Script.always 1)
    inputs.text = inputs'.text ∧
      inputValues inputs.wires .positive = inputValues inputs'.wires .positive ∧
      o.value.positive = o'.value.positive ∧
      o.channelEvents .positive = o'.channelEvents .positive ∧
      BlankWire " \u001eneg\u001e ".toList := by
  intro inputs inputs'
  have hv : inputValues inputs.wires .positive = inputValues inputs'.wires .positive := by
    decide +kernel
  have hw : (Wire.decode " \u001eneg\u001e ".toList).bundle = ⟨[' '], [' ']⟩ := by
    decide +kernel
  have hb : BlankWire " \u001eneg\u001e ".toList := by
    intro channel c hc
    rw [hw] at hc
    cases channel <;> rw [List.mem_singleton.1 hc] <;> rfl
  have hd : ({} : State).disabled = false := rfl
  have hc : isCacheHit {} = false := rfl
  have ht : inputs.text = inputs'.text := rfl
  have h := (run_evaluate_congr .recording (Script.always 1) hd hc ht hv).1
  dsimp only at h ⊢
  exact ⟨ht, hv, h.1, h.2.1, hb⟩

end Chain

end PromptWeave
