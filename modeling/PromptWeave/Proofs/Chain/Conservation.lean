import PromptWeave.Draw.Script
import PromptWeave.Proofs.Chain.Evaluation
import PromptWeave.Proofs.Tags.Interleave
import PromptWeave.Proofs.Tags.Survivors

/-! What a node that interleaves its inputs keeps of them.

An interleaving holds the tags of the resolved template and of all wires in some order, and trimming
the values of the wires and passing over the blank ones takes none away (`flatMap_inputTags`). What
is sent is what is left of these tags without repetitions (`leftOf_evaluate`). So nothing is lost or
invented, in whatever order the wires come (`evaluate_conserves`). -/

namespace PromptWeave

namespace Chain

/-- The tags of a channel that a wire carries. -/
def wireTags (channel : Channel) (wire : Text) : Tags :=
  Tags.parse ((Wire.decode wire).bundle.channel channel)

/-! ## Values -/

section
variable {channel : Channel} {wire : Text}

theorem inputTags_cons_of_blank (h : Text.trim ((Wire.decode wire).bundle.channel channel) = [])
    (wires : List Text) : inputTags (wire :: wires) channel = inputTags wires channel := by
  simp [inputTags, channelTags, channelValues, h]

theorem inputTags_cons_of_not_blank
    (h : Text.trim ((Wire.decode wire).bundle.channel channel) ≠ []) (wires : List Text) :
    inputTags (wire :: wires) channel = wireTags channel wire :: inputTags wires channel := by
  have ht (text : Text) : Tags.parse (Text.trim text) = Tags.parse text :=
    congrArg Tags.mk (Text.trimmedPieces_trim (by decide) text)
  simp [inputTags, channelTags, channelValues, h, ht, wireTags]

/-- A blank value has no tags, so that it may be passed over. -/
theorem wireTags_of_blank (h : Text.trim ((Wire.decode wire).bundle.channel channel) = []) :
    wireTags channel wire = .empty :=
  congrArg Tags.mk (Text.trimmedPieces_of_blank (Text.isBlank_of_trim_eq_nil h))

theorem flatMap_inputTags (wires : List Text) (channel : Channel) :
    (inputTags wires channel).flatMap Tags.toList =
      wires.flatMap fun wire => (wireTags channel wire).toList := by
  induction wires with
  | nil => rfl
  | cons wire wires ih =>
    rw [List.flatMap_cons, ← ih]
    by_cases h : Text.trim ((Wire.decode wire).bundle.channel channel) = []
    · rw [inputTags_cons_of_blank h, wireTags_of_blank h]
      rfl
    · rw [inputTags_cons_of_not_blank h, List.flatMap_cons]

end

section
variable {σ : Type} [Source σ] (observer : Observer) {state : State} (inputs : Inputs) (s : σ)

/-- The tags that enter a channel of a node: those of the resolved template and those of all
wires. -/
def enteringTags (state : State) (channel : Channel) : List Text :=
  (Tags.parse (resolvedText observer state inputs s channel)).toList ++
    inputs.wires.flatMap fun wire => (wireTags channel wire).toList

/-! ## Templates -/

/-- An interleaving draws nothing, so that the second channel begins where the template of the first
one has ended. -/
theorem resolvedText_of_combine (hm : state.mode = .combine) (wires : List Text)
    (channel : Channel) :
    resolvedText observer state { inputs with wires } s channel =
      resolvedText observer state inputs s channel := by
  cases channel with
  | positive => rfl
  | negative =>
    simp only [resolvedText, sourceOf, run_evaluateChannel, hm, Tags.combine, Draw.run_pure]
    rfl

/-! ## Merging -/

theorem perm_enteringTags (hm : state.mode = .combine) {wires : List Text}
    (hp : wires.Perm inputs.wires) (channel : Channel) :
    (enteringTags observer { inputs with wires } s state channel).Perm
      (enteringTags observer inputs s state channel) := by
  rw [enteringTags, enteringTags, resolvedText_of_combine observer inputs s hm]
  exact (hp.flatMap_right _).append_left _

theorem leftOf_evaluate (hd : state.disabled = false) (hc : isCacheHit state = false)
    (hm : state.mode = .combine) (channel : Channel) :
    Tags.LeftOf (enteringTags observer inputs s state channel)
      (Tags.parse (((evaluate observer state inputs).run s).value.channel channel)).toList := by
  have hi : (mergeRun observer state inputs s channel).value =
      Tags.interleave (Tags.parse (resolvedText observer state inputs s channel) ::
        inputTags inputs.wires channel) := by
    rw [mergeRun, hm, Tags.combine, Draw.run_pure, Tags.interleave_filter]
    rfl
  rw [evaluate_of_not_isCacheHit observer hd hc, parse_channel, hi]
  apply (Tags.leftOf_dedupe _).of_perm
  rw [enteringTags, ← flatMap_inputTags]
  exact Tags.perm_interleave _

/-- A node that interleaves its inputs sends, in each channel, tags that entered the channel, every
directive as often as it entered, and one tag for each key that entered. So the order of the wires
matters neither to the directives that are sent nor to the keys. -/
theorem evaluate_conserves (hd : state.disabled = false) (hc : isCacheHit state = false)
    (hm : state.mode = .combine) (channel : Channel) :
    let sent (wires : List Text) : List Text := (Tags.parse
      (((evaluate observer state { inputs with wires }).run s).value.channel channel)).toList
    Tags.LeftOf (enteringTags observer inputs s state channel) (sent inputs.wires) ∧
      ∀ wires, wires.Perm inputs.wires →
        ((sent wires).filter Tags.isDirective).Perm
            ((sent inputs.wires).filter Tags.isDirective) ∧
          ∀ k, k ∈ Tags.keys (sent wires) ↔ k ∈ Tags.keys (sent inputs.wires) := by
  intro sent
  have hl := leftOf_evaluate observer inputs s hd hc hm channel
  refine ⟨hl, fun wires hp => ?_⟩
  have hl' := leftOf_evaluate observer { inputs with wires } s hd hc hm channel
  exact (hl'.of_perm (perm_enteringTags observer inputs s hm hp channel)).alike hl

end

/-- The wires are of all three forms, one is blank, and they share tags and directives with each
other and with the template. -/
theorem evaluate_conserves_forms :
    let inputs : Inputs := ⟨"cat | Hat, [BREAK]".toList, "dog".toList, [
      "red, [BREAK], HAT\u001eneg\u001eDog, [x]".toList, " ".toList,
      "\x7b\"pc_bundle\":1,\"pos\":\" Red, blue\",\"neg\":\"fog, [x]\"\x7d".toList,
      "hat,".toList]⟩
    let state : State := { mode := .combine }
    let sent (wires : List Text) : List Text := (Tags.parse
      (((evaluate .silent state { inputs with wires }).run (Script.always 1)).value.channel
        .positive)).toList
    state.disabled = false ∧ isCacheHit state = false ∧ state.mode = .combine ∧
      inputs.wires.reverse.Perm inputs.wires ∧
      sent inputs.wires = ["Hat", "red", "[BREAK]", "[BREAK]", "blue"].map String.toList ∧
      sent inputs.wires.reverse = ["Hat", "Red", "[BREAK]", "blue", "[BREAK]"].map String.toList ∧
      Tags.LeftOf (enteringTags .silent inputs (Script.always 1) state .positive)
        (sent inputs.wires) ∧
      ∀ k, k ∈ Tags.keys (sent inputs.wires.reverse) ↔
        k ∈ Tags.keys (sent inputs.wires) := by
  intro inputs state sent
  have hd : state.disabled = false := rfl
  have hc : isCacheHit state = false := rfl
  have hm : state.mode = .combine := rfl
  have hp : inputs.wires.reverse.Perm inputs.wires := List.reverse_perm _
  obtain ⟨hl, ho⟩ := evaluate_conserves .silent inputs (Script.always 1) hd hc hm .positive
  exact ⟨hd, hc, hm, hp, by decide +kernel, by decide +kernel, hl, (ho _ hp).2⟩

end Chain

end PromptWeave
