import PromptWeave.Proofs.Chain.Questions
import PromptWeave.Proofs.Tags.Dedupe
import PromptWeave.Proofs.Wire.RoundTrip

/-! Nodes in a line.

Each node of a line receives the wire of the one before it and appends the tags of that wire to its
own. Between any two nodes the tags of a channel are written, put into a wire, read and trimmed; all
of this leaves them as they are (`carries_wire`), and removing repetitions at each node comes to the
same as removing them once at the end (`Tags.dedupe_append_dedupe`). -/

namespace PromptWeave

/-- The tags of all sequences, one sequence after the other. -/
def Tags.concat (sequences : List Tags) : Tags :=
  ⟨sequences.flatMap Tags.toList⟩

theorem Tags.concat_append_singleton (sequences : List Tags) (tags : Tags) :
    concat (sequences ++ [tags]) = concat sequences ++ tags :=
  congrArg Tags.mk (by simp [concat])

namespace Chain

/-! ## Lines of nodes -/

/-- A node of a line: its settings and its templates. -/
structure Link where
  state : State := {}
  text : Text := []
  negText : Text := []

/-- What enters the node when the given wires are connected to it. -/
def Link.inputs (link : Link) (wires : List Text) : Inputs :=
  ⟨link.text, link.negText, wires⟩

/-- Evaluates nodes in order, the first with the given wires as its inputs, and every other with the
wire of the one before it. -/
def evaluateLine (observer : Observer) : (wires : List Text) → List Link → Draw (List Output)
  | _, [] => pure []
  | wires, link :: links => do
    let output ← evaluate observer link.state (link.inputs wires)
    let outputs ← evaluateLine observer [output.wire] links
    return output :: outputs

/-- The node is evaluated, and at most one input follows its own tags: the first one or one drawn at
random. -/
structure Forwards (state : State) : Prop where
  not_disabled : state.disabled = false
  not_isCacheHit : isCacheHit state = false
  mode : state.mode = .randomize ∨ state.mode = .switch ∧ state.switchIndex = 1

instance (state : State) : Decidable (Forwards state) :=
  decidable_of_iff
    (state.disabled = false ∧ isCacheHit state = false ∧
      (state.mode = .randomize ∨ state.mode = .switch ∧ state.switchIndex = 1))
    ⟨fun h => ⟨h.1, h.2.1, h.2.2⟩, fun h => ⟨h.1, h.2, h.3⟩⟩

section
variable {σ : Type} [Source σ]

/-- The tags of a channel in the resolved templates of the nodes of a line, node by node, when the
line is evaluated from a source. -/
def ownTags (observer : Observer) (channel : Channel) :
    (wires : List Text) → List Link → σ → List Tags
  | _, [], _ => []
  | wires, link :: links, s =>
    let o := (evaluate observer link.state (link.inputs wires)).run s
    Tags.parse (resolvedText observer link.state (link.inputs wires) s channel) ::
      ownTags observer channel [o.value.wire] links o.source

end

theorem asksSome_evaluateLine (observer : Observer) (wires : List Text) (links : List Link) :
    (evaluateLine observer wires links).AsksSome := by
  induction links generalizing wires with
  | nil => exact Draw.asksSome_pure _
  | cons link links ih =>
    exact (asksSome_evaluate ..).bind fun _ => (ih _).bind fun _ => Draw.asksSome_pure _

/-! ## What wires carry -/

/-- The wires bring one sequence of tags at most to each channel, and it is the given one. -/
def Carries (wires : List Text) (tags : Channel → Tags) : Prop :=
  ∀ channel, inputTags wires channel = if tags channel = .empty then [] else [tags channel]

theorem carries_nil : Carries [] fun _ => .empty :=
  fun _ => rfl

/-- The wire of an output carries the tags that were written into its channels. -/
theorem carries_wire {b : Bundle} {tags : Channel → Tags}
    (hn : ∀ channel, (tags channel).Normal)
    (hb : ∀ channel, b.channel channel = (tags channel).join) :
    Carries [Wire.encode b] tags := by
  intro channel
  have ht : Text.trim (b.channel channel) = (tags channel).join := by
    rw [hb, Tags.trim_join (hn channel)]
  split
  · rename_i h
    simp [inputTags, channelTags, channelValues, ht, (Tags.join_eq_nil_iff (hn channel)).2 h]
  · rename_i h
    simp [inputTags, channelTags, channelValues, ht, mt (Tags.join_eq_nil_iff (hn channel)).1 h,
      Tags.parse_join (hn channel)]

section
variable {σ : Type} [Source σ] {observer : Observer}

/-! ## One node -/

/-- The merge of a node in a line: its own tags, and then those of its input. -/
theorem value_combine {state : State} (hf : Forwards state) (own tags : Tags) {t : σ}
    (hr : ((Tags.combine state.mode own (if tags = .empty then [] else [tags])
      state.switchIndex).run t).InRange) :
    ((Tags.combine state.mode own (if tags = .empty then [] else [tags])
      state.switchIndex).run t).value = own ++ tags := by
  have he := Tags.append_empty own
  obtain hm | ⟨hm, hi⟩ := hf.mode
  · by_cases ht : tags = .empty
    · simp [hm, Tags.combine, Tags.appendDrawn, ht, he]
    · have hp : (Source.pick t 1).1 < 1 := by
        simpa [hm, ht, Tags.combine, Tags.appendDrawn, Draw.Outcome.InRange] using hr
      simp [hm, ht, Tags.combine, Tags.appendDrawn, Nat.lt_one_iff.1 hp]
  · by_cases ht : tags = .empty
    · simp [hm, hi, Tags.combine, Tags.switchTo, ht, he]
    · simp [hm, hi, Tags.combine, Tags.switchTo, ht]

theorem channel_ofBundle (b : Bundle) (channel : Channel) :
    (Output.ofBundle b).channel channel = b.channel channel := by
  cases channel <;> rfl

variable {state : State} {inputs : Inputs} {tags : Channel → Tags} {s : σ}

theorem channel_evaluate (hf : Forwards state) (hc : Carries inputs.wires tags)
    (hr : ((evaluate observer state inputs).run s).InRange) (channel : Channel) :
    ((evaluate observer state inputs).run s).value.channel channel =
      (Tags.parse (resolvedText observer state inputs s channel) ++ tags channel).dedupe.join := by
  rw [evaluate_of_not_isCacheHit observer hf.not_disabled hf.not_isCacheHit] at hr ⊢
  obtain ⟨t, hv, hp⟩ := exists_combine observer s state inputs channel
  rw [hc channel] at hv hp
  rw [hv, value_combine hf _ _ fun p h => hr p (hp h)]

/-- The wire of a node in a line carries its own tags and then those of its input, without the
repeated ones. -/
theorem carries_evaluate (hf : Forwards state) (hc : Carries inputs.wires tags)
    (hn : ∀ channel, (tags channel).Normal)
    (hr : ((evaluate observer state inputs).run s).InRange) :
    Carries [((evaluate observer state inputs).run s).value.wire] fun channel =>
      (Tags.parse (resolvedText observer state inputs s channel) ++ tags channel).dedupe := by
  obtain ⟨b, hb⟩ := exists_value_eq_ofBundle observer s inputs hf.not_disabled
  rw [hb]
  refine carries_wire (fun channel => ((Tags.normal_parse _).append (hn channel)).dedupe)
    fun channel => ?_
  rw [← channel_evaluate hf hc hr channel, hb, channel_ofBundle]

/-! ## The whole line -/

/-- What the wires before the first node carry stands behind the own tags of all nodes. It is also
what goes on where there are no nodes. -/
theorem getLastD_evaluateLine {wires : List Text} {links : List Link}
    (hf : ∀ link ∈ links, Forwards link.state) (hc : Carries wires tags)
    (hn : ∀ channel, (tags channel).Normal)
    (hd : ∀ channel, (tags channel).dedupe = tags channel)
    (hr : ((evaluateLine observer wires links).run s).InRange) (channel : Channel) :
    (((evaluateLine observer wires links).run s).value.map fun out =>
        out.channel channel).getLastD (tags channel).join =
      (Tags.concat (ownTags observer channel wires links s).reverse ++
        tags channel).dedupe.join := by
  induction links generalizing wires tags s with
  | nil =>
    show (tags channel).join = (Tags.empty ++ tags channel).dedupe.join
    exact congrArg Tags.join (hd channel).symm
  | cons link links ih =>
    rw [evaluateLine, Draw.inRange_bind, Draw.inRange_bind] at hr
    obtain ⟨hr, hrs, -⟩ := hr
    have hf' := hf link List.mem_cons_self
    have hi := ih (fun l hl => hf l (List.mem_cons_of_mem _ hl)) (carries_evaluate hf' hc hn hr)
      (fun c => ((Tags.normal_parse _).append (hn c)).dedupe) (fun c => Tags.dedupe_dedupe _) hrs
    simp only [evaluateLine, ownTags, Draw.run_bind, Draw.run_pure, List.map_cons,
      List.getLastD_cons]
    rw [channel_evaluate hf' hc hr channel, hi, Tags.dedupe_append_dedupe, List.reverse_cons,
      Tags.concat_append_singleton, Tags.append_assoc]

/-- In a line of nodes that forward one input, the tags that the last node sends are the own tags of
all nodes, the last node's first, without the repeated ones. -/
theorem exists_getLast?_evaluateLine {links : List Link} (hl : links ≠ [])
    (hf : ∀ link ∈ links, Forwards link.state)
    (hr : ((evaluateLine observer [] links).run s).InRange) :
    ∃ out, ((evaluateLine observer [] links).run s).value.getLast? = some out ∧
      ∀ channel, out.channel channel =
        (Tags.concat (ownTags observer channel [] links s).reverse).dedupe.join := by
  obtain ⟨out, ho⟩ : ∃ out,
      ((evaluateLine observer [] links).run s).value.getLast? = some out := by
    obtain ⟨link, links, rfl⟩ := List.exists_cons_of_ne_nil hl
    simp only [evaluateLine, Draw.run_bind, Draw.run_pure]
    exact ⟨_, List.getLast?_cons⟩
  refine ⟨out, ho, fun channel => ?_⟩
  have h := getLastD_evaluateLine hf carries_nil (fun _ => Tags.normal_empty) (fun _ => rfl) hr
    channel
  rwa [Tags.append_empty, List.getLastD_eq_getLast?, List.getLast?_map, ho] at h

end

/-- Of the three nodes, the second has no negative tags of its own, and the third repeats tags of
the first in both channels. -/
theorem exists_getLast?_evaluateLine_three :
    let links : List Link := [
      { text := "cat | dog, hat".toList, negText := "blurry, dark".toList },
      { state := { mode := .switch }, text := "Hat, [BREAK]".toList },
      { text := "scarf, CAT".toList, negText := "dark".toList }]
    let s := Script.always 0
    (∀ link ∈ links, Forwards link.state) ∧
      ownTags .silent .positive [] links s =
        [.parse "cat, hat".toList, .parse "Hat, [BREAK]".toList, .parse "scarf, CAT".toList] ∧
      ∃ out, ((evaluateLine .silent [] links).run s).value.getLast? = some out ∧
        ∀ channel, out.channel channel =
          (Tags.concat (ownTags .silent channel [] links s).reverse).dedupe.join := by
  intro links s
  have hf : ∀ link ∈ links, Forwards link.state := by decide +kernel
  exact ⟨hf, by decide +kernel, exists_getLast?_evaluateLine (List.cons_ne_nil _ _) hf
    ((asksSome_evaluateLine ..).inRange _)⟩

end Chain

end PromptWeave
