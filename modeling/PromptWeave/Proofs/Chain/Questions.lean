import PromptWeave.Proofs.Chain.Evaluation
import PromptWeave.Proofs.Draw.InRange

/-! What the evaluation of a chain node asks for.

A disabled node and a locked one ask for nothing. On the normal path each channel asks for what its
template and its merge ask for, the positive channel first. All of this is settled by the settings
and the inputs before the first answer (`asks_evaluate`). -/

namespace PromptWeave

namespace Chain

/-- The values that the wires of the inputs bring to a channel. -/
def inputValues (wires : List Text) (channel : Channel) : List Text :=
  channelValues (wires.map fun wire => (Wire.decode wire).bundle) channel

/-- What a channel asks for: an option of each group of its template, and then an input. -/
def channelCounts (state : State) (inputs : Inputs) (channel : Channel) : List Nat :=
  Template.optionCounts (inputs.template channel) ++
    Tags.mergeCounts state.mode (inputValues inputs.wires channel).length

/-- What a node asks for. -/
def counts (state : State) (inputs : Inputs) : List Nat :=
  if state.disabled ∨ isCacheHit state then []
  else channelCounts state inputs .positive ++ channelCounts state inputs .negative

theorem pos_of_mem_counts {state : State} {inputs : Inputs} {n : Nat}
    (h : n ∈ counts state inputs) : 0 < n := by
  have hc (channel : Channel) (h : n ∈ channelCounts state inputs channel) : 0 < n :=
    (List.mem_append.1 h).elim Template.pos_of_mem_optionCounts Tags.pos_of_mem_mergeCounts
  unfold counts at h
  split at h
  · nomatch h
  · exact (List.mem_append.1 h).elim (hc .positive) (hc .negative)

variable (observer : Observer) (state : State) (inputs : Inputs)

theorem asks_see (event : Event) : (observer.see event).Asks [] :=
  Draw.asks_reportAll _

theorem asks_evaluateChannel (channel : Channel) :
    (evaluateChannel observer state channel (inputs.template channel)
      (inputTags inputs.wires channel)).Asks (channelCounts state inputs channel) := by
  have hl : (inputTags inputs.wires channel).length = (inputValues inputs.wires channel).length :=
    List.length_map _
  rw [channelCounts, ← hl]
  -- The number of inputs is the same for every text that the template may resolve to.
  refine (Template.asks_resolve _).bind fun text => ?_
  refine (asks_see observer _).bind fun _ => ?_
  have hm := (Tags.asks_combine state.mode (Tags.parse text) (inputTags inputs.wires channel)
    state.switchIndex).bind fun merged =>
      (asks_see observer (.combined channel state.mode merged.dedupe)).bind_pure fun _ =>
        merged.dedupe.join
  rwa [List.append_nil] at hm

theorem asks_evaluate : (evaluate observer state inputs).Asks (counts state inputs) := by
  by_cases hd : state.disabled
  · simp only [evaluate, counts, hd, true_or, if_true]
    exact (asks_see observer .disabled).bind_pure fun _ => Output.disabled
  by_cases hc : isCacheHit state
  · simp only [evaluate, counts, hd, hc, or_true, if_true]
    exact (asks_see observer _).bind_pure fun _ => Output.ofBundle (cachedBundle state)
  · simp only [evaluate, counts, hd, hc, or_self]
    refine (asks_evaluateChannel observer state inputs .positive).bind fun positive => ?_
    have hn := (asks_evaluateChannel observer state inputs .negative).bind fun negative =>
      (asks_see observer (.finished (Output.ofBundle ⟨positive, negative⟩).wire)).bind_pure
        fun _ => Output.ofBundle ⟨positive, negative⟩
    rwa [List.append_nil] at hn

theorem asksSome_evaluate : (evaluate observer state inputs).AsksSome :=
  (asks_evaluate observer state inputs).asksSome fun _ => pos_of_mem_counts

/-- The choices that an evaluation asks for are the same whatever the source answers. Each is among
some possibilities, and their numbers are those of the options and of the values that the settings
and the inputs leave open. -/
theorem map_count_evaluate {σ τ : Type} [Source σ] [Source τ] (s : σ) (t : τ) :
    let asked := ((evaluate observer state inputs).run s).picks.map Pick.count
    asked = ((evaluate observer state inputs).run t).picks.map Pick.count ∧
      (∀ n ∈ asked, 1 ≤ n) ∧
      asked =
        if state.disabled ∨ isCacheHit state then []
        else
          Template.optionCounts inputs.text ++
            Tags.mergeCounts state.mode (inputValues inputs.wires .positive).length ++
            (Template.optionCounts inputs.negText ++
              Tags.mergeCounts state.mode (inputValues inputs.wires .negative).length) := by
  have hs := (asks_evaluate observer state inputs).map_count s
  have ht := (asks_evaluate observer state inputs).map_count t
  refine ⟨hs.trans ht.symm, fun n hn => ?_, hs⟩
  rw [hs] at hn
  exact pos_of_mem_counts hn

end Chain

end PromptWeave
