import PromptWeave.Proofs.Text.Trimmed
import PromptWeave.Tags.Combine
import PromptWeave.Template.Basic

/-! What a computation asks for, whatever the answers are.

The questions of a template are settled by its text: one for each group with options. Those of a
merge are settled by the mode and the number of inputs. So the answers to earlier questions, though
they change the text that comes out, shift no later question (`Template.asks_resolve`,
`Tags.asks_combine`). -/

namespace PromptWeave

namespace Draw

/-- Whatever the answers are, a computation asks for choices among these counts, in this order. -/
inductive Asks {α : Type} : Draw α → List Nat → Prop
  | done (a : α) : Asks (done a) []
  | ask {count : Nat} {next : Nat → Draw α} {counts : List Nat} :
      (∀ i, Asks (next i) counts) → Asks (ask count next) (count :: counts)
  | tell {r : Report} {next : Draw α} {counts : List Nat} :
      Asks next counts → Asks (tell r next) counts

section
variable {α β : Type} {x : Draw α} {f : α → Draw β} {counts counts' : List Nat}

theorem asks_pure (a : α) : (pure a : Draw α).Asks [] := .done a

theorem asks_pick (count : Nat) : (pick count).Asks [count] := .ask fun i => .done i

theorem asks_report (r : Report) : (report r).Asks [] := .tell (.done ())

theorem asks_reportAll (reports : List Report) : (reportAll reports).Asks [] := by
  induction reports with
  | nil => exact .done ()
  | cons r reports ih => exact .tell ih

theorem Asks.bind (hx : x.Asks counts) (hf : ∀ a, (f a).Asks counts') :
    (x >>= f).Asks (counts ++ counts') := by
  show (x.bind f).Asks (counts ++ counts')
  induction hx with
  | done a => exact hf a
  | ask _ ih => exact .ask ih
  | tell _ ih => exact .tell ih

theorem Asks.bind_pure (hx : x.Asks counts) (g : α → β) :
    (x >>= fun a => pure (g a)).Asks counts := by
  have h := hx.bind (f := fun a => pure (g a)) fun _ => asks_pure _
  rwa [List.append_nil] at h

/-- The choices of a run are those asked for, from every source. -/
theorem Asks.map_count {σ : Type} [Source σ] (h : x.Asks counts) (s : σ) :
    (x.run s).picks.map Pick.count = counts := by
  induction h generalizing s with
  | done a => rfl
  | ask _ ih => exact congrArg _ (ih _ _)
  | tell _ ih => exact ih s

end

end Draw

/-! ## Templates -/

theorem asks_choose (options : List Text) :
    (choose options).Asks (Slot.options options).count?.toList := by
  simp only [choose, Slot.count?]
  split
  · exact Draw.asks_pure _
  · exact (Draw.asks_pick options.length).bind_pure (options[·]?)

namespace Slot

theorem asks_fill (slot : Slot) : slot.fill.Asks slot.count?.toList := by
  cases slot with
  | fixed text => exact Draw.asks_pure (some text)
  | options texts => exact asks_choose texts

theorem filterMap_count?_cons (slot : Slot) (slots : List Slot) :
    (slot :: slots).filterMap count? = slot.count?.toList ++ slots.filterMap count? := by
  cases h : slot.count? <;> simp [h]

theorem asks_fillAll (slots : List Slot) : (fillAll slots).Asks (slots.filterMap count?) := by
  induction slots with
  | nil => exact Draw.asks_pure []
  | cons slot slots ih =>
    rw [filterMap_count?_cons]
    exact (asks_fill slot).bind fun text? => ih.bind_pure (text?.toList ++ ·)

theorem toList_count?_options (texts : List Text) :
    (options texts).count?.toList = [texts.length].filter (0 < ·) := by
  cases texts <;> simp [count?]

end Slot

namespace Template

/-- The groups of a template, each with its options: the only one of a multiline group, and
otherwise the parts in which a bar occurs. -/
def groups (template : Text) : List (List Text) :=
  if isMultilineGroup (lines template) then [groupOptions (lines template)]
  else ((parts (lines template)).filter ('|' ∈ ·)).map Slot.optionsOf

/-- The numbers of options of the groups that have any, in order. -/
def optionCounts (template : Text) : List Nat :=
  ((groups template).map List.length).filter (0 < ·)

theorem filterMap_count?_parts (parts : List Text) :
    (parts.map Slot.ofPart).filterMap Slot.count? =
      (((parts.filter ('|' ∈ ·)).map Slot.optionsOf).map List.length).filter (0 < ·) := by
  induction parts with
  | nil => rfl
  | cons part parts ih =>
    rw [List.map_cons, Slot.filterMap_count?_cons, ih]
    by_cases h : '|' ∈ part
    · have hp : (part :: parts).filter ('|' ∈ ·) = part :: parts.filter ('|' ∈ ·) :=
        List.filter_cons_of_pos (by simpa)
      rw [hp, Slot.ofPart, if_pos h, Slot.toList_count?_options]
      exact (List.filter_append ..).symm
    · have hp : (part :: parts).filter ('|' ∈ ·) = parts.filter ('|' ∈ ·) :=
        List.filter_cons_of_neg (by simpa)
      rw [hp, Slot.ofPart, if_neg h]
      rfl

theorem filterMap_count?_slots (template : Text) :
    (slots (lines template)).filterMap Slot.count? = optionCounts template := by
  unfold slots optionCounts groups
  split
  · rw [Slot.filterMap_count?_cons, Slot.toList_count?_options]
    exact List.append_nil _
  · exact filterMap_count?_parts _

theorem lines_of_blank {template : Text} (h : Text.trim template = []) : lines template = [] :=
  Text.trimmedPieces_of_blank (Text.isBlank_of_trim_eq_nil h)

/-- A blank template has no groups. -/
theorem optionCounts_of_blank {template : Text} (h : Text.trim template = []) :
    optionCounts template = [] := by
  rw [optionCounts, groups, lines_of_blank h]
  rfl

theorem pos_of_mem_optionCounts {template : Text} {n : Nat} (h : n ∈ optionCounts template) :
    0 < n := by
  simpa using (List.mem_filter.1 h).2

theorem asks_resolve (template : Text) : (resolve template).Asks (optionCounts template) := by
  unfold resolve
  split
  · rw [optionCounts_of_blank ‹_›]
    exact Draw.asks_pure []
  · have hs := (Slot.asks_fillAll (slots (lines template))).bind_pure [',', ' '].intercalate
    rw [filterMap_count?_slots] at hs
    have hr := hs.bind fun text =>
      (Draw.asks_report (.notice (.templateResolved template text))).bind_pure fun _ => text
    rwa [List.append_nil] at hr

end Template

/-! ## Merges -/

namespace Tags

/-- The question of a merge with a number of inputs: only a random one has any, and it asks for one
of the inputs, if there are any. -/
def mergeCounts (mode : Mode) (inputs : Nat) : List Nat :=
  if mode = .randomize ∧ 0 < inputs then [inputs] else []

theorem asks_combine (mode : Mode) (own : Tags) (inputs : List Tags) (switchIndex : Nat) :
    (combine mode own inputs switchIndex).Asks (mergeCounts mode inputs.length) := by
  cases mode with
  | combine | switch => exact Draw.asks_pure _
  | randomize =>
    by_cases h : inputs = []
    · simp only [combine, appendDrawn, h, if_true, mergeCounts]
      exact Draw.asks_pure own
    · have hl : 0 < inputs.length := List.length_pos_iff.2 h
      simp only [combine, appendDrawn, h, if_false, mergeCounts, hl, and_self, if_true]
      exact (Draw.asks_pick _).bind_pure (own ++ inputs.getD · empty)

theorem pos_of_mem_mergeCounts {mode : Mode} {inputs n : Nat} (h : n ∈ mergeCounts mode inputs) :
    0 < n := by
  unfold mergeCounts at h
  split at h
  · rw [List.mem_singleton.1 h]
    exact And.right ‹_›
  · nomatch h

end Tags

end PromptWeave
