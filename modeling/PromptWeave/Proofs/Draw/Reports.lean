import PromptWeave.Observer
import PromptWeave.Tags.Combine
import PromptWeave.Template.Basic

/-! What a computation reports, whatever the answers to its questions are.

Templates and merges report no events; what they leave are at most lines of the log about
themselves. Reports do not change the course of a computation: without them it makes the same
choices and comes to the same value (`Draw.run_mute`). -/

namespace PromptWeave

namespace Draw

/-- All reports of a computation have a property. -/
def Tells {α : Type} (P : Report → Prop) : Draw α → Prop
  | done _ => True
  | ask _ next => ∀ i, (next i).Tells P
  | tell r next => P r ∧ next.Tells P

section
variable {α β : Type} {P : Report → Prop} {x : Draw α}

theorem tells_pure (a : α) : (pure a : Draw α).Tells P := trivial

theorem tells_pick (count : Nat) : (pick count).Tells P := fun _ => trivial

theorem tells_report {r : Report} (h : P r) : (report r).Tells P := ⟨h, trivial⟩

theorem tells_reportAll {reports : List Report} (h : ∀ r ∈ reports, P r) :
    (reportAll reports).Tells P := by
  induction reports with
  | nil => exact tells_pure ()
  | cons r reports ih =>
    obtain ⟨hr, hs⟩ := List.forall_mem_cons.1 h
    exact ⟨hr, ih hs⟩

theorem Tells.bind {f : α → Draw β} (hx : x.Tells P) (hf : ∀ a, (f a).Tells P) :
    (x >>= f).Tells P := by
  show (x.bind f).Tells P
  induction x with
  | done a => exact hf a
  | ask n next ih => exact fun i => ih i (hx i)
  | tell r next ih => exact ⟨hx.1, ih hx.2⟩

theorem Tells.reports {σ : Type} [Source σ] (h : x.Tells P) (s : σ) :
    ∀ r ∈ (x.run s).reports, P r := by
  induction x generalizing s with
  | done a => exact nofun
  | ask n next ih => exact ih _ (h _) _
  | tell r next ih => exact List.forall_mem_cons.2 ⟨h.1, ih h.2 s⟩

end

/-! ## Leaving out reports -/

/-- A computation without its reports. -/
def mute {α : Type} : Draw α → Draw α
  | done a => done a
  | ask count next => ask count fun i => (next i).mute
  | tell _ next => next.mute

section
variable {α β : Type}

theorem mute_bind (x : Draw α) (f : α → Draw β) :
    (x >>= f).mute = x.mute >>= fun a => (f a).mute := by
  show (x.bind f).mute = x.mute.bind fun a => (f a).mute
  induction x with
  | done a => rfl
  | ask n next ih => exact congrArg (ask n) (funext ih)
  | tell r next ih => exact ih

theorem mute_reportAll (reports : List Report) : (reportAll reports).mute = pure () := by
  induction reports with
  | nil => rfl
  | cons r reports ih => exact ih

theorem run_mute {σ : Type} [Source σ] (x : Draw α) (s : σ) :
    x.mute.run s = ⟨(x.run s).value, (x.run s).source, (x.run s).picks, []⟩ := by
  induction x generalizing s with
  | done a => rfl
  | ask n next ih => simp [mute, run, ih]
  | tell r next ih => simp [mute, run, ih]

/-- Computations that differ only in their reports run alike. -/
theorem run_congr_of_mute {σ : Type} [Source σ] {x y : Draw α} (h : x.mute = y.mute) (s : σ) :
    (x.run s).value = (y.run s).value ∧ (x.run s).source = (y.run s).source ∧
      (x.run s).picks = (y.run s).picks := by
  have hr := run_mute x s
  rw [h, run_mute, Outcome.mk.injEq] at hr
  exact ⟨hr.1.symm, hr.2.1.symm, hr.2.2.1.symm⟩

end

end Draw

/-! ## Events -/

/-- The event that a report tells of, be it kept or a line of the log. -/
def Report.event? : Report → Option Event
  | event e => some e
  | notice (.observed e) => some e
  | notice _ => none

/-- An event that is reported at all has a property. -/
def Report.EventIs (P : Event → Prop) (r : Report) : Prop :=
  ∀ e ∈ r.event?, P e

/-- An observer tells of no events but those that it is shown. -/
def Observer.Truthful (observer : Observer) : Prop :=
  ∀ event, ∀ r ∈ observer.reports event, r.EventIs (· = event)

theorem Observer.truthful_of_mem {observer : Observer}
    (h : observer ∈ [log, silent, recording]) : observer.Truthful := by
  have hs {event : Event} {r : Report} (hr : r.event? = some event) : r.EventIs (· = event) := by
    intro e he
    rw [hr] at he
    exact (Option.some.inj he).symm
  simp only [List.mem_cons, List.not_mem_nil, or_false] at h
  rcases h with rfl | rfl | rfl <;> intro event r hr
  · exact hs (List.mem_singleton.1 hr ▸ rfl)
  · exact absurd hr List.not_mem_nil
  · exact hs (List.mem_singleton.1 hr ▸ rfl)

variable {P : Event → Prop}

theorem Observer.Truthful.tells_see {observer : Observer} (h : observer.Truthful) {event : Event}
    (hp : P event) : (observer.see event).Tells (Report.EventIs P) := by
  refine Draw.tells_reportAll fun r hr e he => ?_
  rw [h event r hr e he]
  exact hp

/-- Who looks on makes no difference but in the reports. -/
theorem Observer.mute_see (observer : Observer) (event : Event) :
    (observer.see event).mute = pure () :=
  Draw.mute_reportAll _

theorem Slot.tells_fill (slot : Slot) : slot.fill.Tells (Report.EventIs P) := by
  cases slot with
  | fixed text => exact Draw.tells_pure _
  | options texts =>
    simp only [fill, choose]
    split
    · exact Draw.tells_pure _
    · exact (Draw.tells_pick _).bind fun i => Draw.tells_pure _

theorem Slot.tells_fillAll (slots : List Slot) : (fillAll slots).Tells (Report.EventIs P) := by
  induction slots with
  | nil => exact Draw.tells_pure _
  | cons slot slots ih =>
    exact (tells_fill slot).bind fun _ => ih.bind fun _ => Draw.tells_pure _

theorem Template.tells_resolve (template : Text) :
    (resolve template).Tells (Report.EventIs P) := by
  unfold resolve
  split
  · exact Draw.tells_pure _
  · refine Draw.Tells.bind ?_ fun text =>
      (Draw.tells_report ?_).bind fun _ => Draw.tells_pure _
    · exact (Slot.tells_fillAll _).bind fun _ => Draw.tells_pure _
    · exact nofun

theorem Tags.tells_combine (mode : Mode) (own : Tags) (inputs : List Tags) (switchIndex : Nat) :
    (combine mode own inputs switchIndex).Tells (Report.EventIs P) := by
  cases mode with
  | combine | switch => exact Draw.tells_pure _
  | randomize =>
    simp only [combine, appendDrawn]
    split
    · exact Draw.tells_pure _
    · exact (Draw.tells_pick _).bind fun _ => Draw.tells_pure _

end PromptWeave
