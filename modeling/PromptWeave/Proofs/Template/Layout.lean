import Mathlib.Logic.Relation
import PromptWeave.Proofs.Template.Places
import PromptWeave.Proofs.Text.Pieces

/-! The layout of templates.

The lines of a template are trimmed, without the blank ones, and both ways of resolving it look at
nothing else. So it does not matter how lines end, how far they are indented, and whether there are
blank lines between them (`run_congr_of_relaid`). -/

namespace PromptWeave

namespace Template

/-- A line starts behind a text. -/
def StartsLine (before : Text) : Prop :=
  before = [] ∨ ∃ s, before = s ++ ['\n']

/-- A line ends in front of a text. -/
def EndsLine (after : Text) : Prop :=
  after = [] ∨ ∃ t, after = '\n' :: t

/-- A text of blank characters within a line. -/
def IsPadding (s : Text) : Prop :=
  ∀ c ∈ s, Text.isBlank c ∧ c ≠ '\n'

instance (s : Text) : Decidable (IsPadding s) :=
  List.decidableBAll _ s

/-- A change in the layout of a template. -/
inductive Relaid : Text → Text → Prop
  /-- A line feed becomes a carriage return and a line feed. -/
  | carriageReturn (s t : Text) : Relaid (s ++ '\n' :: t) (s ++ '\r' :: '\n' :: t)
  /-- A blank line is put in front of a line. -/
  | blankBefore {s padding t : Text} : StartsLine s → IsPadding padding →
      Relaid (s ++ t) (s ++ (padding ++ '\n' :: t))
  /-- A blank line is put behind a line. -/
  | blankBehind {s padding t : Text} : EndsLine t → IsPadding padding →
      Relaid (s ++ t) (s ++ '\n' :: (padding ++ t))
  /-- Blanks are put at the start of a line. -/
  | indented {s padding t : Text} : StartsLine s → IsPadding padding →
      Relaid (s ++ t) (s ++ (padding ++ t))
  /-- Blanks are put at the end of a line. -/
  | padded {s padding t : Text} : EndsLine t → IsPadding padding →
      Relaid (s ++ t) (s ++ (padding ++ t))

/-! ## Lines -/

theorem lines_append_cons (s t : Text) : lines (s ++ '\n' :: t) = lines s ++ lines t :=
  Text.trimmedPieces_append_cons '\n' s t

theorem lines_append {s t : Text} (h : StartsLine s ∨ EndsLine t) :
    lines (s ++ t) = lines s ++ lines t := by
  have hn : lines [] = [] := rfl
  rcases h with (rfl | ⟨s, rfl⟩) | (rfl | ⟨t, rfl⟩)
  · rfl
  · rw [List.append_assoc, List.singleton_append, lines_append_cons, lines_append_cons, hn,
      List.append_nil]
  · rw [hn, List.append_nil, List.append_nil]
  · rw [lines_append_cons]
    exact congrArg _ (lines_append_cons [] t).symm

section
variable {padding : Text} (h : IsPadding padding)
include h

theorem lines_padding : lines padding = [] :=
  Text.trimmedPieces_of_blank fun c hc => (h c hc).1

theorem lines_append_padding (s : Text) : lines (s ++ padding) = lines s :=
  Text.trimmedPieces_append_of_blank (fun c hc => (h c hc).1) (fun hm => (h _ hm).2 rfl) s

theorem lines_padding_append (t : Text) : lines (padding ++ t) = lines t :=
  Text.trimmedPieces_of_blank_append (fun c hc => (h c hc).1) (fun hm => (h _ hm).2 rfl) t

end

/-- No change in the layout of a template changes its lines. -/
theorem lines_eq_of_relaid {t t' : Text} (h : Relaid t t') : lines t' = lines t := by
  cases h with
  | carriageReturn s t =>
    have hr : IsPadding ['\r'] := List.forall_mem_singleton.2 ⟨rfl, by decide⟩
    rw [List.append_cons, lines_append_cons, lines_append_cons, lines_append_padding hr]
  | blankBefore hs hp =>
    rw [lines_append (.inl hs), lines_append (.inl hs), lines_append_cons, lines_padding hp,
      List.nil_append]
  | blankBehind ht hp =>
    rw [lines_append_cons, lines_padding_append hp, lines_append (.inr ht)]
  | indented hs hp =>
    rw [lines_append (.inl hs), lines_append (.inl hs), lines_padding_append hp]
  | padded ht hp =>
    rw [← List.append_assoc, lines_append (.inr ht), lines_append (.inr ht),
      lines_append_padding hp]

theorem lines_eq_of_relaids {t t' : Text} (h : Relation.ReflTransGen Relaid t t') :
    lines t' = lines t := by
  induction h with
  | refl => rfl
  | tail _ h ih => exact (lines_eq_of_relaid h).trans ih

/-! ## Resolving -/

/-- Both ways of resolving a template come to the same text with the same choices, however its lines
are laid out, and it is a multiline group in each layout or in none. -/
theorem run_congr_of_relaid {σ : Type} [Source σ] {t t' : Text}
    (h : Relation.ReflTransGen Relaid t t') (s : σ) :
    isMultilineGroup (lines t') = isMultilineGroup (lines t) ∧
    ((resolve t').run s).value = ((resolve t).run s).value ∧
    ((resolve t').run s).picks = ((resolve t).run s).picks ∧
    ((resolveLines t').run s).value = ((resolveLines t).run s).value ∧
    ((resolveLines t').run s).picks = ((resolveLines t).run s).picks := by
  have hl := lines_eq_of_relaids h
  obtain ⟨hv, hp⟩ := run_resolve t s
  obtain ⟨hv', hp'⟩ := run_resolve t' s
  obtain ⟨kv, kp⟩ := run_resolveLines t s
  obtain ⟨kv', kp'⟩ := run_resolveLines t' s
  rw [hl] at hv' hp' kv' kp'
  exact ⟨by rw [hl], hv'.trans hv.symm, hp'.trans hp.symm, kv'.trans kv.symm, kp'.trans kp.symm⟩

/-- A multiline group whose line feed becomes a carriage return and a line feed, and to which an
indentation, a blank line and blanks at its end are added. -/
theorem run_congr_of_relaid_forms :
    let t := "a,|\nb".toList
    let t' := "a,|\r\n\u00a0\n\t b\u3000\u0085".toList
    Relation.ReflTransGen Relaid t t' ∧
      ((resolve t').run (Script.always 1)).value = ((resolve t).run (Script.always 1)).value ∧
      ((resolve t').run (Script.always 1)).picks = [⟨2, 1⟩] := by
  intro t t'
  let first := "a,|\r\n".toList
  have hs : StartsLine first := .inr ⟨"a,|\r".toList, rfl⟩
  have hr : Relaid t (first ++ "b".toList) := .carriageReturn "a,|".toList "b".toList
  have hi : Relaid (first ++ "b".toList) (first ++ ("\t ".toList ++ "b".toList)) :=
    .indented hs (by decide)
  have hb : Relaid (first ++ "\t b".toList) (first ++ ("\u00a0".toList ++ '\n' :: "\t b".toList)) :=
    .blankBefore hs (by decide)
  have hpad : IsPadding "\u3000\u0085".toList := by decide
  have hp : Relaid (first ++ "\u00a0\n\t b".toList ++ []) t' :=
    .padded (.inl rfl) hpad
  have h : Relation.ReflTransGen Relaid t t' :=
    .tail (.tail (.tail (.single hr) hi) hb) hp
  obtain ⟨-, hv, hq, -⟩ := run_congr_of_relaid h (Script.always 1)
  have ht : ((resolve t).run (Script.always 1)).picks = [⟨2, 1⟩] := by decide
  exact ⟨h, hv, hq.trans ht⟩

end Template

end PromptWeave
