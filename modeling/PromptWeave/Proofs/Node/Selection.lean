import PromptWeave.Draw.Script
import PromptWeave.Proofs.Chain.Questions
import PromptWeave.Proofs.Node.Refusal
import PromptWeave.Proofs.Tags.Survivors

/-! Nodes that take the tags of one input.

Two modes let a single input follow the node's own tags, either the one that a switch points to or
one that is drawn. Each channel counts its own values, blank ones left out, so that one index may
take different inputs in the two channels (`Selects`). The merge of a channel comes behind its
template and makes just the choice that its mode asks for (`exists_selects_evaluate`). That indices
are numbers and not words of 64 bits makes no difference (`toNat_indexWord`,
`map_toNat_positionWord?`). -/

namespace PromptWeave

/-! ## Indices -/

/-- A switch index as a word without sign. An index below 0 counts as 0. -/
def indexWord (k : Int64) : UInt64 :=
  if k < 0 then 0 else k.toUInt64

/-- The position, counted from 0, that a switch index points to. -/
def positionWord? (k : Int64) : Option UInt64 :=
  if indexWord k = 0 then none else some (indexWord k - 1)

theorem toNat_indexWord (k : Int64) : (indexWord k).toNat = k.toInt.toNat := by
  have hs : k < 0 ↔ k.toInt < 0 := Int64.lt_iff_toInt_lt
  rw [indexWord]
  split
  · have hk : k.toInt < 0 := hs.1 ‹_›
    exact (Int.toNat_of_nonpos (Int.le_of_lt hk)).symm
  · have hk : 0 ≤ k.toInt := Int.not_lt.1 (mt hs.2 ‹_›)
    -- A word whose sign is not set has the same number with and without sign.
    have hw : k.toInt = if 2 * k.toUInt64.toNat < 2 ^ 64 then (k.toUInt64.toNat : Int)
        else k.toUInt64.toNat - (2 ^ 64 : Nat) :=
      BitVec.toInt_eq_toNat_cond k.toBitVec
    have hl := k.toUInt64.toNat_lt
    split at hw <;> omega

theorem map_toNat_positionWord? (k : Int64) :
    (positionWord? k).map UInt64.toNat =
      if 1 ≤ k.toInt then some (k.toInt - 1).toNat else none := by
  have hk := toNat_indexWord k
  have hz : indexWord k = 0 ↔ (indexWord k).toNat = 0 := UInt64.toNat_inj.symm
  rw [positionWord?]
  split
  · have hn := hz.1 ‹_›
    rw [if_neg (by omega)]
    rfl
  · have hn : 1 ≤ (indexWord k).toNat := Nat.pos_of_ne_zero (mt hz.2 ‹_›)
    have hs : (indexWord k - 1).toNat = (indexWord k).toNat - 1 :=
      UInt64.toNat_sub_of_le _ _ (UInt64.le_iff_toNat_le.2 hn)
    rw [if_pos (by omega), Option.map_some, hs]
    congr 1
    omega

/-! ## One input -/

/-- The tags that a mode which takes a single input takes from the values of the inputs, for a
switch index counted from 1, and the choices that are made for it. -/
inductive Selects (values : List Text) (index : Int) : Mode → List Pick → Tags → Prop
  | switch {i : Nat} {value : Text} : index = i + 1 → values[i]? = some value →
      Selects values index .switch [] (.parse value)
  | outside : index < 1 ∨ values.length < index → Selects values index .switch [] .empty
  | drawn {i : Nat} {value : Text} : values[i]? = some value →
      Selects values index .randomize [⟨values.length, i⟩] (.parse value)
  | nothing : values = [] → Selects values index .randomize [] .empty

theorem Tags.exists_selects_switchTo (own : Tags) (values : List Text) (index : Int) :
    ∃ taken, Selects values index .switch [] taken ∧
      switchTo own (values.map parse) index.toNat = own ++ taken := by
  cases h : index.toNat with
  | zero => exact ⟨.empty, .outside (.inl (by omega)), (append_empty own).symm⟩
  | succ i =>
    have hi : index = i + 1 := by omega
    rw [switchTo, List.getD_eq_getElem?_getD, List.getElem?_map]
    cases hv : values[i]? with
    | none =>
      have hl := List.getElem?_eq_none_iff.1 hv
      exact ⟨.empty, .outside (.inr (by omega)), rfl⟩
    | some value => exact ⟨.parse value, .switch hi hv, rfl⟩

section
variable {σ : Type} [Source σ]

theorem Tags.exists_selects_appendDrawn (own : Tags) (values : List Text) (index : Int) {t : σ}
    (hr : ((appendDrawn own (values.map parse)).run t).InRange) :
    let m := (appendDrawn own (values.map parse)).run t
    ∃ taken, Selects values index .randomize m.picks taken ∧ m.value = own ++ taken := by
  by_cases hv : values = []
  · subst hv
    exact ⟨.empty, .nothing rfl, (append_empty own).symm⟩
  · have he : appendDrawn own (values.map parse) =
        Draw.pick values.length >>= fun i => pure (own ++ (values.map parse).getD i empty) := by
      rw [appendDrawn, if_neg (mt List.map_eq_nil_iff.1 hv), List.length_map]
    rw [he] at hr ⊢
    have hi : (Source.pick t values.length).1 < values.length := hr ⟨_, _⟩ List.mem_cons_self
    refine ⟨_, .drawn (List.getElem?_eq_getElem hi), ?_⟩
    show own ++ (values.map parse).getD (Source.pick t values.length).1 empty = _
    rw [List.getD_eq_getElem?_getD, List.getElem?_map, List.getElem?_eq_getElem hi]
    rfl

theorem Tags.exists_selects_combine {mode : Mode} (hs : mode ≠ .combine) (own : Tags)
    (values : List Text) (index : Int) {t : σ}
    (hr : ((combine mode own (values.map parse) index.toNat).run t).InRange) :
    let m := (combine mode own (values.map parse) index.toNat).run t
    ∃ taken, Selects values index mode m.picks taken ∧ m.value = own ++ taken := by
  cases mode with
  | combine => exact absurd rfl hs
  | switch => exact exists_selects_switchTo own values index
  | randomize => exact exists_selects_appendDrawn own values index hr

/-! ## A node -/

namespace Chain

variable {observer : Observer} {state : State} {inputs : Inputs} {s : σ}

/-- What is sent of a channel are the tags of its template and then those taken of one input,
without the repeated ones; so those of the template come first. -/
theorem exists_selects_evaluate {index : Int} (hs : state.mode ≠ .combine)
    (hi : state.switchIndex = index.toNat)
    (hr : ((evaluateChannels observer state inputs).run s).InRange) (channel : Channel) :
    let own := Tags.parse (templateRun observer state inputs s channel).value
    let sent := ((evaluateChannels observer state inputs).run s).value.channel channel
    ∃ taken,
      Selects (inputValues inputs.wires channel) index state.mode
        (mergeRun observer state inputs s channel).picks taken ∧
      sent = (own ++ taken).dedupe.join ∧
      own.dedupe.toList <+: (Tags.parse sent).toList := by
  intro own sent
  have hm : (mergeRun observer state inputs s channel).InRange :=
    fun p hp => hr p (picks_mergeRun_subset observer s state inputs channel hp)
  have ht : ∃ taken, Selects (inputValues inputs.wires channel) index state.mode
      (mergeRun observer state inputs s channel).picks taken ∧
        (mergeRun observer state inputs s channel).value = own ++ taken := by
    unfold mergeRun at hm ⊢
    rw [hi] at hm ⊢
    exact Tags.exists_selects_combine hs own _ index hm
  obtain ⟨taken, hsel, hval⟩ := ht
  refine ⟨taken, hsel, ?_, ?_⟩
  · rw [← hval]
    exact channel_eq_join observer s state inputs channel
  · rw [parse_channel observer s state inputs channel, hval]
    exact Tags.prefix_dedupe_append own taken

end Chain

/-! ## A request -/

theorem Request.parts?_eq_ok {request : Request} {mode : Mode} {wires : List Text}
    (hm : Mode.ofText? request.mode = some mode) (hw : collect request.slots = .ok wires) :
    request.parts? = .ok (request.state mode, ⟨request.text, request.negText, wires⟩) := by
  simp [parts?, Mode.parse, hm, hw, bind, Except.bind, pure, Except.pure]

/-- A chain node in one of the two modes that take a single input is always answered if its slots
can be collected. For each channel it draws what its template asks for and then at most one input,
and sends the tags of the template followed by those of the input, without the repeated ones. The
switch index comes to the same as a number and as a word of 64 bits. -/
theorem Registry.evaluate_selects {request : Request} {mode : Mode} {wires : List Text} {s : σ}
    (hm : Mode.ofText? request.mode = some mode) (hs : mode ≠ .combine)
    (hw : Request.collect request.slots = .ok wires) (hd : request.disabled = false)
    (hl : request.locked = false ∨ request.cachedOutput = [])
    (hr : ((builtin.evaluate "prompt_chain".toList request).run s).InRange) :
    let o := (builtin.evaluate "prompt_chain".toList request).run s
    let template := Chain.templateRun .log (request.state mode)
      ⟨request.text, request.negText, wires⟩ s
    (∃ n, Request.EndsAt request.slots n ∧
        wires = (List.range' 1 n).filterMap (Request.wire? request.slots)) ∧
      (∃ (out : Output) (merged : Channel → List Pick),
        o.value = .ok (.ofOutput out) ∧
          o.picks = (template .positive).picks ++ merged .positive ++
            ((template .negative).picks ++ merged .negative) ∧
          ∀ channel, ∃ taken,
            Selects (Chain.inputValues wires channel) request.switchIndex mode (merged channel)
              taken ∧
            out.channel channel = (Tags.parse (template channel).value ++ taken).dedupe.join ∧
            (Tags.parse (template channel).value).dedupe.toList <+:
              (Tags.parse (out.channel channel)).toList) ∧
      ∀ k : Int64, k.toInt = request.switchIndex →
        (indexWord k).toNat = (request.state mode).switchIndex ∧
          (positionWord? k).map UInt64.toNat =
            if 1 ≤ request.switchIndex then some (request.switchIndex - 1).toNat else none := by
  intro o template
  refine ⟨Request.collect_eq_ok_iff.1 hw, ?_, fun k hk => ?_⟩
  · let state := request.state mode
    let inputs : Inputs := ⟨request.text, request.negText, wires⟩
    have hc : Chain.isCacheHit state = false := by
      rcases hl with hl | hl <;> simp [Chain.isCacheHit, state, Request.state, hl]
    obtain ⟨reports, ho⟩ :=
      Evaluator.run_chain_of_ok .log (Request.parts?_eq_ok hm hw) s
    rw [Chain.evaluate_of_not_isCacheHit .log hd hc] at ho
    change o = _ at ho
    change o.InRange at hr
    rw [ho] at hr ⊢
    have hp := Chain.picks_evaluateChannels .log s state inputs
    exact ⟨_, fun channel => (Chain.mergeRun .log state inputs s channel).picks, rfl, hp,
      Chain.exists_selects_evaluate hs rfl hr⟩
  · rw [← hk, toNat_indexWord, map_toNat_positionWord?]
    refine ⟨?_, rfl⟩
    show k.toInt.toNat = request.switchIndex.toNat
    rw [hk]

end

/-- The second positive value comes from the fifth input and the second negative one from the
fourth. One slot is not connected, and one stands behind a gap. -/
theorem Registry.evaluate_selects_second :
    let slots : Json.Members := [
      (slotKey 1, .null),
      (slotKey 2, .text "\x7b\"pc_bundle\":1,\"pos\":\" \",\"neg\":\"fog\"\x7d".toList),
      (slotKey 3, .text "red".toList),
      (slotKey 4, .text " \u001eneg\u001elow".toList),
      (slotKey 5, .text "HAT, blue".toList),
      (slotKey 7, .text "late".toList)]
    let wires := [2, 3, 4, 5].filterMap (Request.wire? slots)
    let request : Request := ⟨{
      mode := " Switch ".toList, text := "cat | hat".toList, negText := "dog".toList,
      switchIndex := 2 }, slots⟩
    let o := (builtin.evaluate "prompt_chain".toList request).run (Script.always 1)
    Mode.ofText? request.mode = some .switch ∧ Request.collect request.slots = .ok wires ∧
      o.InRange ∧ o.value.toOption.map Response.positive = some "hat, blue".toList ∧
      o.value.toOption.map Response.negative = some "dog, low".toList ∧
      ∃ (out : Output) (merged : Channel → List Pick), o.value = .ok (.ofOutput out) ∧
        ∀ channel, ∃ taken,
          Selects (Chain.inputValues wires channel) 2 .switch (merged channel) taken := by
  intro slots wires request o
  have hm : Mode.ofText? request.mode = some .switch := by decide
  have hw : Request.collect request.slots = .ok wires := by rfl
  have hr : o.InRange := by
    show ∀ p ∈ o.picks, p.index < p.count
    decide +kernel
  obtain ⟨-, ⟨out, merged, ho, -, hc⟩, -⟩ :=
    evaluate_selects hm (by decide) hw rfl (.inl rfl) hr
  refine ⟨hm, hw, hr, by decide +kernel, by decide +kernel, out, merged, ho, fun channel => ?_⟩
  obtain ⟨taken, hs, -⟩ := hc channel
  exact ⟨taken, hs⟩

end PromptWeave
