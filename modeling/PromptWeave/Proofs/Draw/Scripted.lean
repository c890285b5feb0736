import PromptWeave.Proofs.Draw.Replay
import PromptWeave.Proofs.Template.Alternatives

/-! Choices that a script makes.

A script is gone through in a circle, one index for each choice, however the counts vary
(`Script.answers_afterDraws`); what a run chooses is an instance of this, since a run goes through
its source one question after the other (`Draw.picks_eq_answers`). All its indices are within range,
so that an option or an input is taken wherever there are any. -/

namespace PromptWeave

/-! ## Answers in order -/

namespace Source

variable {σ : Type} [Source σ]

/-- The indices that a source gives for counts, one after the other. -/
def answers (s : σ) : List Nat → List Nat
  | [] => []
  | n :: counts => (pick s n).1 :: answers (pick s n).2 counts

/-- A source that keeps to what is possible answers within range. -/
theorem forall₂_answers_lt [LawfulSource σ] {counts : List Nat} (h : ∀ n ∈ counts, 1 ≤ n)
    (s : σ) : List.Forall₂ (· < ·) (answers s counts) counts := by
  induction counts generalizing s with
  | nil => exact .nil
  | cons n counts ih =>
    obtain ⟨hn, hc⟩ := List.forall_mem_cons.1 h
    exact .cons (LawfulSource.pick_lt s hn) (ih hc _)

end Source

/-- The choices of a run are the answers of the source to the counts of the run, and the source that
is left is the one after these counts. -/
theorem Draw.picks_eq_answers {σ α : Type} [Source σ] (x : Draw α) (s : σ) :
    (x.run s).picks.map Pick.index = Source.answers s ((x.run s).picks.map Pick.count) ∧
      (x.run s).source = Source.after s ((x.run s).picks.map Pick.count) := by
  induction x generalizing s with
  | done a => exact ⟨rfl, rfl⟩
  | ask n next ih =>
    obtain ⟨hi, hs⟩ := ih (Source.pick s n).1 (Source.pick s n).2
    exact ⟨congrArg ((Source.pick s n).1 :: ·) hi, hs⟩
  | tell r next ih => exact ih s

/-! ## Scripts -/

namespace Script

/-- The answer of a script to the choice number `k`, counted from 0, among `count` possibilities:
the index at that place of the circle, or the last possibility if the index is too great. -/
def indexAt (indices : List Nat) (k count : Nat) : Nat :=
  if h : indices = [] then 0
  else min (indices.get ⟨k % indices.length, Nat.mod_lt k (List.length_pos_iff.2 h)⟩)
    (count - 1)

/-- The script that has answered `k` choices. -/
def afterDraws (indices : List Nat) (k : Nat) : Script where
  indices
  position := if indices = [] then 0 else k
  draws := k

theorem afterDraws_zero (indices : List Nat) : afterDraws indices 0 = ofList indices := by
  simp [afterDraws, ofList]

theorem pick_afterDraws (indices : List Nat) (k count : Nat) :
    (afterDraws indices k).pick count = (indexAt indices k count, afterDraws indices (k + 1)) := by
  by_cases h : indices = []
  · subst h
    simp [pick, wanted, afterDraws, indexAt]
  · have hk : k % indices.length < indices.length := Nat.mod_lt k (List.length_pos_iff.2 h)
    simp [pick, wanted, afterDraws, indexAt, h, List.getD_eq_getElem?_getD, hk]

theorem answers_afterDraws (indices counts : List Nat) (k : Nat) :
    Source.answers (afterDraws indices k) counts =
        counts.mapIdx (fun i => indexAt indices (k + i)) ∧
      Source.after (afterDraws indices k) counts = afterDraws indices (k + counts.length) := by
  induction counts generalizing k with
  | nil => exact ⟨rfl, rfl⟩
  | cons n counts ih =>
    have hp : Source.pick (afterDraws indices k) n =
        (indexAt indices k n, afterDraws indices (k + 1)) := pick_afterDraws indices k n
    obtain ⟨ha, hs⟩ := ih (k + 1)
    have hi : (fun i => indexAt indices (k + 1 + i)) = fun i => indexAt indices (k + (i + 1)) := by
      funext i
      rw [Nat.add_right_comm, Nat.add_assoc]
    constructor
    · rw [Source.answers, hp, ha, hi, List.mapIdx_cons]
      rfl
    · show Source.after (Source.pick (afterDraws indices k) n).2 counts = _
      rw [hp, hs, List.length_cons, Nat.add_right_comm, Nat.add_assoc]

end Script

/-! ## Nothing is passed over -/

/-- Each place that can hold anything holds one of its alternatives. -/
theorem Slot.Fills.forall₂ {slots : List Slot} {picks : List Pick} {texts : List Text}
    (h : Fills slots picks texts) :
    List.Forall₂ (fun slot text => text ∈ slot.alternatives)
      (slots.filter (·.alternatives ≠ [])) texts := by
  induction h with
  | nil => exact .nil
  | @cons slot slots _ _ _ _ hf _ ih =>
    cases hf with
    | fixed text =>
      rw [List.filter_cons_of_pos (by simp [alternatives])]
      exact .cons List.mem_cons_self ih
    | @options texts _ _ ht =>
      cases ht with
      | none =>
        rw [List.filter_cons_of_neg (by simp [alternatives])]
        exact ih
      | one hi =>
        have hne : (options texts).alternatives ≠ [] :=
          List.ne_nil_of_length_pos (Nat.zero_lt_of_lt hi)
        rw [List.filter_cons_of_pos (by simpa using hne)]
        exact .cons (List.getElem_mem hi) ih

section
variable {σ : Type} [Source σ] [LawfulSource σ]

theorem exists_run_choose {options : List Text} (h : options ≠ []) (s : σ) :
    ∃ i, ∃ hi : i < options.length,
      ((choose options).run s).picks = [⟨options.length, i⟩] ∧
      ((choose options).run s).value = some options[i] := by
  have hi : (Source.pick s options.length).1 < options.length :=
    LawfulSource.pick_lt s (List.length_pos_iff.2 h)
  refine ⟨_, hi, ?_⟩
  rw [choose, if_neg h, Draw.run_bind, Draw.run_pick, Draw.run_pure]
  exact ⟨rfl, List.getElem?_eq_getElem hi⟩

theorem Tags.exists_run_appendDrawn (own : Tags) {inputs : List Tags} (h : inputs ≠ []) (s : σ) :
    ∃ i, ∃ hi : i < inputs.length,
      ((appendDrawn own inputs).run s).picks = [⟨inputs.length, i⟩] ∧
      ((appendDrawn own inputs).run s).value = own ++ inputs[i] := by
  have hi : (Source.pick s inputs.length).1 < inputs.length :=
    LawfulSource.pick_lt s (List.length_pos_iff.2 h)
  refine ⟨_, hi, ?_⟩
  rw [appendDrawn, if_neg h, Draw.run_bind, Draw.run_pick, Draw.run_pure]
  exact ⟨rfl, congrArg (own ++ ·) (List.getElem_eq_getD empty).symm⟩

theorem Slot.forall₂_fillAll (slots : List Slot) (s : σ) :
    List.Forall₂ (fun slot text => text ∈ slot.alternatives)
      (slots.filter (·.alternatives ≠ [])) ((fillAll slots).run s).value :=
  (fills_run_fillAll ((asksSome_fillAll slots).inRange s)).forall₂

theorem Template.exists_run_resolve (template : Text) (s : σ) :
    ∃ texts, List.Forall₂ (fun slot text => text ∈ slot.alternatives)
        ((slots (lines template)).filter (·.alternatives ≠ [])) texts ∧
      ((resolve template).run s).value = [',', ' '].intercalate texts :=
  ⟨_, Slot.forall₂_fillAll _ s, (run_resolve template s).1⟩

theorem Template.exists_run_resolveLines (template : Text) (s : σ) :
    ∃ texts, List.Forall₂ (fun slot text => text ∈ slot.alternatives)
        ((lineSlots (lines template)).filter (·.alternatives ≠ [])) texts ∧
      ((resolveLines template).run s).value = [',', ' '].intercalate texts :=
  ⟨_, Slot.forall₂_fillAll _ s, (run_resolveLines template s).1⟩

end

/-- A script answers the choices that are asked of it in a circle, within range, and counts them. So
it does in any run. Wherever a script is in its circle, a choice among options takes one of them, a
random merge with inputs appends one of them, and in both ways of resolving a template each place
that can hold anything is filled. -/
theorem Script.goes_in_circle (indices : List Nat)
    {counts : List Nat} (h : ∀ n ∈ counts, 1 ≤ n) :
    (Source.answers (ofList indices) counts = counts.mapIdx (indexAt indices) ∧
        List.Forall₂ (· < ·) (Source.answers (ofList indices) counts) counts ∧
        (Source.after (ofList indices) counts).draws = counts.length) ∧
      (∀ (α : Type) (x : Draw α),
        let o := x.run (ofList indices)
        o.picks.map Pick.index = (o.picks.map Pick.count).mapIdx (indexAt indices) ∧
          o.source.draws = o.picks.length) ∧
      (∀ (s : Script) (options : List Text), options ≠ [] →
        ∃ i, ∃ hi : i < options.length,
          ((choose options).run s).picks = [⟨options.length, i⟩] ∧
          ((choose options).run s).value = some options[i]) ∧
      (∀ (s : Script) (own : Tags) (inputs : List Tags), inputs ≠ [] →
        ∃ i, ∃ hi : i < inputs.length,
          ((Tags.appendDrawn own inputs).run s).picks = [⟨inputs.length, i⟩] ∧
            ((Tags.appendDrawn own inputs).run s).value = own ++ inputs[i]) ∧
      ∀ (s : Script) (template : Text),
        (∃ texts, List.Forall₂ (fun slot text => text ∈ slot.alternatives)
            ((Template.slots (Template.lines template)).filter (·.alternatives ≠ [])) texts ∧
          ((Template.resolve template).run s).value = [',', ' '].intercalate texts) ∧
        ∃ texts, List.Forall₂ (fun slot text => text ∈ slot.alternatives)
            ((Template.lineSlots (Template.lines template)).filter (·.alternatives ≠ []))
            texts ∧
          ((Template.resolveLines template).run s).value = [',', ' '].intercalate texts := by
  have ha (counts : List Nat) :
      Source.answers (ofList indices) counts = counts.mapIdx (indexAt indices) ∧
        (Source.after (ofList indices) counts).draws = counts.length := by
    obtain ⟨ha, hs⟩ := answers_afterDraws indices counts 0
    rw [afterDraws_zero] at ha hs
    rw [ha, hs]
    simp [afterDraws]
  refine ⟨⟨(ha counts).1, Source.forall₂_answers_lt h _, (ha counts).2⟩, fun α x => ?_,
    fun s options ho => exists_run_choose ho s,
    fun s own inputs hi => own.exists_run_appendDrawn hi s,
    fun s template => ⟨Template.exists_run_resolve template s,
      Template.exists_run_resolveLines template s⟩⟩
  obtain ⟨hi, hs⟩ := x.picks_eq_answers (ofList indices)
  dsimp only
  rw [hi, hs, (ha _).1, (ha _).2, List.length_map]
  exact ⟨rfl, rfl⟩

/-- The second index is too great for both counts, and the fourth choice begins the circle again. -/
theorem Script.goes_in_circle_twice :
    (∀ n ∈ [3, 3, 4, 1], 1 ≤ n) ∧
      Source.answers (ofList [1, 5, 2]) [3, 3, 4, 1] = [1, 2, 2, 0] ∧
      (Source.after (ofList [1, 5, 2]) [3, 3, 4, 1]).draws = 4 := by
  have hc : ∀ n ∈ [3, 3, 4, 1], 1 ≤ n := by decide
  obtain ⟨ha, -, hd⟩ := (goes_in_circle [1, 5, 2] hc).1
  exact ⟨hc, ha.trans (by decide), hd⟩

end PromptWeave
