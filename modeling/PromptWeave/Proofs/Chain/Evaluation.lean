import PromptWeave.Node.Chain
import PromptWeave.Proofs.Tags.Combine
import PromptWeave.Proofs.Tags.Dedupe

/-! What a run of an evaluation consists of.

A disabled node and a locked one make no choice. On the normal path the run of a channel is the run
of its template followed by the run of the merge, and the run of a node is that of its two channels,
one after the other on the same source (`picks_evaluateChannels`). What is sent can be read as the
tags that it was written from (`parse_channel`). -/

namespace PromptWeave

/-- The template of a channel. -/
def Inputs.template (inputs : Inputs) : Channel → Text
  | .positive => inputs.text
  | .negative => inputs.negText

/-- The tags that the wires of the inputs bring to a channel. -/
def Chain.inputTags (wires : List Text) (channel : Channel) : List Tags :=
  channelTags (wires.map fun wire => (Wire.decode wire).bundle) channel

theorem Chain.normal_inputTags {wires : List Text} {channel : Channel} :
    ∀ tags ∈ inputTags wires channel, tags.Normal := by
  intro tags ht
  obtain ⟨value, -, rfl⟩ := List.mem_map.1 ht
  exact Tags.normal_parse value

section
variable {σ : Type} [Source σ]

@[simp] theorem Observer.run_see (observer : Observer) (event : Event) (s : σ) :
    (observer.see event).run s = ⟨(), s, [], observer.reports event⟩ :=
  Draw.run_reportAll _ s

namespace Chain

variable (observer : Observer) {state : State} {inputs : Inputs} (s : σ)

/-! ## Overrides -/

theorem run_evaluate_of_disabled (h : state.disabled) :
    (evaluate observer state inputs).run s =
      ⟨.disabled, s, [], observer.reports .disabled⟩ := by
  simp only [evaluate, h, if_true, Draw.run_bind, Draw.run_pure, Observer.run_see, List.append_nil]

theorem run_evaluate_of_isCacheHit (hd : state.disabled = false) (h : isCacheHit state) :
    (evaluate observer state inputs).run s =
      ⟨.ofBundle (cachedBundle state), s, [],
        observer.reports (.cacheHit (Wire.encode (cachedBundle state)))⟩ := by
  simp only [evaluate, hd, h, Bool.false_eq_true, if_false, if_true, Draw.run_bind, Draw.run_pure,
    Observer.run_see, List.append_nil, Output.ofBundle]

theorem evaluate_of_not_isCacheHit (hd : state.disabled = false) (h : isCacheHit state = false) :
    evaluate observer state inputs = evaluateChannels observer state inputs := by
  simp [evaluate, hd, h]

/-! ## The normal path -/

/-- The run of a channel: the template is resolved, and the tags are merged behind it. -/
theorem run_evaluateChannel (state : State) (channel : Channel) (template : Text)
    (inputs : List Tags) :
    (evaluateChannel observer state channel template inputs).run s =
      let t := (Template.resolve template).run s
      let m := (Tags.combine state.mode (Tags.parse t.value) inputs state.switchIndex).run t.source
      ⟨m.value.dedupe.join, m.source, t.picks ++ m.picks,
        t.reports ++ (observer.reports (.resolved channel t.value) ++ (m.reports ++
          observer.reports (.combined channel state.mode m.value.dedupe)))⟩ := by
  simp only [evaluateChannel, Draw.run_bind, Draw.run_pure, Observer.run_see, List.append_nil,
    List.nil_append]

/-- The run of a node: both channels are evaluated, the positive one first. -/
theorem run_evaluateChannels (state : State) (inputs : Inputs) :
    (evaluateChannels observer state inputs).run s =
      let p := (evaluateChannel observer state .positive inputs.text
        (inputTags inputs.wires .positive)).run s
      let n := (evaluateChannel observer state .negative inputs.negText
        (inputTags inputs.wires .negative)).run p.source
      ⟨.ofBundle ⟨p.value, n.value⟩, n.source, p.picks ++ n.picks,
        p.reports ++ (n.reports ++
          observer.reports (.finished (Wire.encode ⟨p.value, n.value⟩)))⟩ := by
  simp only [evaluateChannels, Draw.run_bind, Draw.run_pure, Observer.run_see, List.append_nil,
    Output.ofBundle, inputTags]

/-- A node that is not disabled sends a bundle. -/
theorem exists_value_eq_ofBundle (inputs : Inputs) (hd : state.disabled = false) :
    ∃ b, ((evaluate observer state inputs).run s).value = .ofBundle b := by
  cases h : isCacheHit state with
  | true => exact ⟨_, by rw [run_evaluate_of_isCacheHit observer s hd h]⟩
  | false =>
    exact ⟨_, by rw [evaluate_of_not_isCacheHit observer hd h, run_evaluateChannels]⟩

/-! ## One channel of a node -/

/-- The source that the evaluation of a channel begins with, when that of the node begins with
`s`. -/
def sourceOf (state : State) (inputs : Inputs) (s : σ) : Channel → σ
  | .positive => s
  | .negative => ((evaluateChannel observer state .positive inputs.text
      (inputTags inputs.wires .positive)).run s).source

/-- The text that the template of a channel resolves to when a node is evaluated. -/
def resolvedText (state : State) (inputs : Inputs) (s : σ) (channel : Channel) : Text :=
  ((Template.resolve (inputs.template channel)).run
    (sourceOf observer state inputs s channel)).value

/-- What is sent of a channel is what its evaluation gives, and the choices made there are among
those of the node. -/
theorem channel_evaluateChannels (state : State) (inputs : Inputs) (channel : Channel) :
    let o := (evaluateChannel observer state channel (inputs.template channel)
      (inputTags inputs.wires channel)).run (sourceOf observer state inputs s channel)
    let all := (evaluateChannels observer state inputs).run s
    all.value.channel channel = o.value ∧ o.picks ⊆ all.picks := by
  rw [run_evaluateChannels]
  cases channel with
  | positive => exact ⟨rfl, List.subset_append_left _ _⟩
  | negative => exact ⟨rfl, List.subset_append_right _ _⟩

/-- The run of the template of a channel when a node is evaluated. -/
def templateRun (state : State) (inputs : Inputs) (s : σ) (channel : Channel) :
    Draw.Outcome σ Text :=
  (Template.resolve (inputs.template channel)).run (sourceOf observer state inputs s channel)

/-- The run of the merge of a channel, behind that of its template. -/
def mergeRun (state : State) (inputs : Inputs) (s : σ) (channel : Channel) :
    Draw.Outcome σ Tags :=
  let t := templateRun observer state inputs s channel
  (Tags.combine state.mode (Tags.parse t.value) (inputTags inputs.wires channel)
    state.switchIndex).run t.source

section
variable (state : State) (inputs : Inputs) (channel : Channel)

theorem run_evaluateChannel_eq :
    let o := (evaluateChannel observer state channel (inputs.template channel)
      (inputTags inputs.wires channel)).run (sourceOf observer state inputs s channel)
    o.value = (mergeRun observer state inputs s channel).value.dedupe.join ∧
      o.picks = (templateRun observer state inputs s channel).picks ++
        (mergeRun observer state inputs s channel).picks := by
  rw [run_evaluateChannel]
  exact ⟨rfl, rfl⟩

theorem picks_evaluateChannels :
    ((evaluateChannels observer state inputs).run s).picks =
      (templateRun observer state inputs s .positive).picks ++
        (mergeRun observer state inputs s .positive).picks ++
        ((templateRun observer state inputs s .negative).picks ++
          (mergeRun observer state inputs s .negative).picks) := by
  obtain ⟨-, hp⟩ := run_evaluateChannel_eq observer s state inputs .positive
  obtain ⟨-, hn⟩ := run_evaluateChannel_eq observer s state inputs .negative
  rw [run_evaluateChannels, ← hp, ← hn]
  rfl

theorem picks_mergeRun_subset :
    (mergeRun observer state inputs s channel).picks ⊆
      ((evaluateChannels observer state inputs).run s).picks := by
  intro p hp
  rw [picks_evaluateChannels]
  cases channel with
  | positive => exact List.mem_append_left _ (List.mem_append_right _ hp)
  | negative => exact List.mem_append_right _ (List.mem_append_right _ hp)

theorem channel_eq_join :
    ((evaluateChannels observer state inputs).run s).value.channel channel =
      (mergeRun observer state inputs s channel).value.dedupe.join :=
  (channel_evaluateChannels observer s state inputs channel).1.trans
    (run_evaluateChannel_eq observer s state inputs channel).1

/-- The tags that are sent of a channel are those of its merge without the repeated ones. -/
theorem parse_channel :
    Tags.parse (((evaluateChannels observer state inputs).run s).value.channel channel) =
      (mergeRun observer state inputs s channel).value.dedupe := by
  have hn : (mergeRun observer state inputs s channel).value.Normal :=
    Tags.normal_combine (Tags.normal_parse _) normal_inputTags _ _ _
  rw [channel_eq_join, Tags.parse_join hn.dedupe]

/-- Each channel that is sent was merged on some source from the tags of its resolved template and
those of the inputs. -/
theorem exists_combine :
    ∃ t : σ,
      let m := (Tags.combine state.mode
        (Tags.parse (resolvedText observer state inputs s channel))
        (inputTags inputs.wires channel) state.switchIndex).run t
      let all := (evaluateChannels observer state inputs).run s
      all.value.channel channel = m.value.dedupe.join ∧ m.picks ⊆ all.picks :=
  ⟨_, channel_eq_join observer s state inputs channel,
    picks_mergeRun_subset observer s state inputs channel⟩

end

end Chain

end

end PromptWeave
