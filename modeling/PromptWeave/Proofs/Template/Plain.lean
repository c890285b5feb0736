import PromptWeave.Proofs.Tags.Normal
import PromptWeave.Proofs.Template.Reading
import PromptWeave.Proofs.Template.SingleLine

/-! What templates come to, taken as templates again.

The text of a template is a single line without bars (`plain_resolve`, `plain_resolveLines`). As a
template such a text leaves nothing to choose: it comes to its own tags, written again
(`comesTo_resolve`, `comesTo_resolveLines`). Those are the text itself where the template was a
list, for then the text was put together from parts between commas (`normal_fillAll`). The option of
a multiline group may hold commas of its own. -/

namespace PromptWeave

namespace Template

/-- A text that leaves nothing to choose: a single line without bars. -/
structure Plain (s : Text) : Prop where
  bar : '|' ∉ s
  lineFeed : '\n' ∉ s

theorem plain_intercalate {texts : List Text} (h : ∀ t ∈ texts, Plain t) :
    Plain ([',', ' '].intercalate texts) := by
  constructor
  · intro hm
    rcases Text.mem_of_mem_intercalate hm with hs | ⟨t, ht, hc⟩
    · revert hs
      decide
    · exact (h t ht).bar hc
  · intro hm
    rcases Text.mem_of_mem_intercalate hm with hs | ⟨t, ht, hc⟩
    · revert hs
      decide
    · exact (h t ht).lineFeed hc

/-! ## Texts in places -/

end Template

section
variable {σ : Type} [Source σ] {s : σ}

theorem mem_of_mem_choose {options : List Text} {t : Text}
    (h : t ∈ ((choose options).run s).value) : t ∈ options := by
  unfold choose at h
  split at h
  · nomatch h
  · rw [Draw.run_bind] at h
    exact List.mem_of_getElem? h

/-- Each text that fills a place is one of those that can stand there, also where the choice is out
of range. -/
theorem Slot.mem_of_mem_fillAll {slots : List Slot} {t : Text}
    (h : t ∈ ((fillAll slots).run s).value) : ∃ slot ∈ slots, t ∈ slot.alternatives := by
  induction slots generalizing s with
  | nil => nomatch h
  | cons slot slots ih =>
    rw [fillAll, Draw.run_bind, Draw.run_bind] at h
    rcases List.mem_append.1 h with h | h
    · refine ⟨slot, List.mem_cons_self, ?_⟩
      cases slot with
      | fixed text => exact h
      | options texts => exact mem_of_mem_choose (Option.mem_toList.1 h)
    · obtain ⟨slot', hm, ht⟩ := ih h
      exact ⟨slot', List.mem_cons_of_mem slot hm, ht⟩

/-- Places that are all fixed are filled without a choice. -/
theorem Slot.run_fillAll_fixed (texts : List Text) :
    ((fillAll (texts.map fixed)).run s).value = texts ∧
      ((fillAll (texts.map fixed)).run s).picks = [] := by
  induction texts with
  | nil => exact ⟨rfl, rfl⟩
  | cons t texts ih =>
    rw [List.map_cons, fillAll, Draw.run_bind, Draw.run_bind]
    exact ⟨congrArg (t :: ·) ih.1, by simpa [fill] using ih.2⟩

end

namespace Template

theorem plain_of_mem_alternatives {part t : Text} (hp : Text.IsPiece ',' part) (hl : '\n' ∉ part)
    (h : t ∈ (Slot.ofPart part).alternatives) : Text.IsPiece ',' t ∧ Plain t := by
  unfold Slot.ofPart at h
  split at h
  · have ht : Text.IsPiece '|' t := Text.isPiece_of_mem_trimmedPieces h
    have hs {c : Char} : c ∈ t → c ∈ part := Text.mem_of_mem_trimmedPieces h
    exact ⟨⟨ht.ne_nil, ht.trimmed, mt hs hp.not_mem⟩, ht.not_mem, mt hs hl⟩
  · rename_i hb
    obtain rfl : t = part := List.mem_singleton.1 h
    exact ⟨hp, hb, hl⟩

theorem not_mem_of_mem_lines {template line : Text} (h : line ∈ lines template) : '\n' ∉ line :=
  (Text.isPiece_of_mem_trimmedPieces h).not_mem

theorem isPiece_of_mem_parts {template part : Text} (h : part ∈ parts (lines template)) :
    Text.IsPiece ',' part ∧ '\n' ∉ part := by
  refine ⟨Text.isPiece_of_mem_trimmedPieces h, fun hm => ?_⟩
  rcases Text.mem_of_mem_intercalate (Text.mem_of_mem_trimmedPieces h hm)
    with hs | ⟨line, hl, hc⟩
  · revert hs
    decide
  · exact not_mem_of_mem_lines hl hc

theorem plain_of_mem_groupOptions {template t : Text} (h : t ∈ groupOptions (lines template)) :
    Plain t := by
  refine ⟨(Text.isPiece_of_mem_trimmedPieces h).not_mem, fun hm => ?_⟩
  rw [groupOptions_eq] at h
  obtain ⟨line, hl, ht⟩ := List.mem_flatMap.1 h
  have hp : Text.dropEndWhile (fun c => c == '|' || c == ',') line <+: line :=
    List.rdropWhile_prefix _ _
  exact not_mem_of_mem_lines hl (hp.subset (Text.mem_of_mem_trimmedPieces ht hm))

/-! ## Bars of lines -/

theorem mergeBarPairs_sublist (s : Text) : (mergeBarPairs s).Sublist s := by
  fun_induction mergeBarPairs s with
  | case1 s ih => exact (((ih.cons '|').cons ' ').cons_cons '|').cons_cons ' '
  | case2 c s _ ih => exact ih.cons_cons c
  | case3 => exact .slnil

theorem mergeBars_sublist (s : Text) : (mergeBars s).Sublist s := by
  fun_induction mergeBars s with
  | case1 s _ ih => exact ih.trans (mergeBarPairs_sublist s)
  | case2 s _ => exact List.Sublist.refl s

theorem stripBars_sublist (part : Text) : (stripBars part).Sublist part :=
  (Text.trim_sublist _).trans (List.rdropWhile_prefix _ _).sublist

theorem lineFeed_not_mem_barred (template : Text) : '\n' ∉ barred (lines template) := by
  intro hm
  rcases Text.mem_of_mem_intercalate ((mergeBars_sublist _).subset hm) with hs | ⟨t, ht, hc⟩
  · revert hs
    decide
  · obtain ⟨line, hl, rfl⟩ := List.mem_map.1 ht
    refine not_mem_of_mem_lines hl ?_
    unfold markLine at hc
    split at hc
    · exact hc
    · exact (List.mem_append.1 hc).resolve_right (by decide)

/-- The parts of a template whose lines are alternatives. -/
theorem isPiece_of_mem_lineParts {template part : Text}
    (h : part ∈
      ((Text.trimmedPieces ',' (barred (lines template))).map stripBars).filter (· ≠ [])) :
    Text.IsPiece ',' part ∧ '\n' ∉ part := by
  obtain ⟨hm, hn⟩ := List.mem_filter.1 h
  obtain ⟨p, hp, rfl⟩ := List.mem_map.1 hm
  have hs {c : Char} : c ∈ stripBars p → c ∈ p := fun hc => (stripBars_sublist p).subset hc
  refine ⟨⟨of_decide_eq_true hn, Text.trimmed_trim _, ?_⟩, fun hl => ?_⟩
  · exact mt hs (Text.isPiece_of_mem_trimmedPieces hp).not_mem
  · exact lineFeed_not_mem_barred template (Text.mem_of_mem_trimmedPieces hp (hs hl))

theorem two_le_count_of_hasBarPair {s : Text} (h : hasBarPair s) : 2 ≤ s.count '|' := by
  fun_induction hasBarPair s with
  | case1 s =>
    simp
  | case2 c s _ ih => exact Nat.le_trans (ih h) (List.count_le_count_cons)
  | case3 => cases h

theorem barred_singleton {line : Text} (h : '|' ∉ line) : barred [line] = markLine line := by
  have hc : (markLine line).count '|' ≤ 1 := by
    unfold markLine
    split
    · rw [List.count_eq_zero_of_not_mem h]
      exact Nat.zero_le 1
    · rw [List.count_append, List.count_eq_zero_of_not_mem h]
      exact Nat.le_refl 1
  have hb : ¬hasBarPair (markLine line) := fun hb => by
    have := two_le_count_of_hasBarPair hb
    omega
  rw [barred, List.map_singleton, List.intercalate_singleton, mergeBars, if_neg hb]

theorem stripBars_trim {p : Text} (h : '|' ∉ p) : stripBars (Text.trim p) = Text.trim p := by
  have hd : Text.dropEndWhile (· == '|') (Text.trim p) = Text.trim p := by
    refine List.rdropWhile_eq_self_iff.2 fun hn hb => h ?_
    rw [← beq_iff_eq.1 hb]
    exact (Text.trim_sublist p).subset (List.getLast_mem hn)
  rw [stripBars, hd, (Text.trimmed_trim p).trim_eq]

/-- A bar that was added to a text is taken away again. -/
theorem stripBars_trim_append_bar (p : Text) :
    stripBars (Text.trim (p ++ [' ', '|'])) = Text.trim p := by
  obtain ⟨before, after, hb, ha, he⟩ := Text.exists_eq_append_trim p
  have hs : ∀ c ∈ after ++ [' '], Text.isBlank c :=
    List.forall_mem_append.2 ⟨ha, Text.blank_space⟩
  have hbar : Text.Trimmed ['|'] := ⟨fun _ => rfl, fun _ => rfl⟩
  by_cases hn : Text.trim p = []
  · have hp : ∀ c ∈ p ++ [' '], Text.isBlank c :=
      List.forall_mem_append.2 ⟨Text.isBlank_of_trim_eq_nil hn, Text.blank_space⟩
    rw [List.append_cons p, Text.trim_of_blank_append hp, hn]
    rfl
  · have ht : Text.trim (p ++ [' ', '|']) = Text.trim p ++ (after ++ [' ']) ++ ['|'] := by
      have hp : p ++ [' ', '|'] = before ++ (Text.trim p ++ ((after ++ [' ']) ++ ['|'])) := by
        conv => lhs; rw [he]
        simp
      rw [hp, Text.trim_of_blank_append hb,
        ((Text.trimmed_trim p).append hbar hn (List.cons_ne_nil _ _) _).trim_eq,
        List.append_assoc (Text.trim p)]
    have hd : Text.dropEndWhile (· == '|') (Text.trim p ++ (after ++ [' ']) ++ ['|']) =
        Text.trim p ++ (after ++ [' ']) := by
      refine (List.rdropWhile_concat_pos _ _ _ rfl).trans ?_
      rw [← List.append_assoc]
      exact List.rdropWhile_concat_neg _ _ _ (by decide)
    rw [ht, stripBars, hd, Text.trim_append_of_blank hs, (Text.trimmed_trim p).trim_eq]

theorem filter_map_stripBars (ps : List Text) :
    (((ps.map Text.trim).filter (· ≠ [])).map stripBars).filter (· ≠ []) =
      (ps.map fun p => stripBars (Text.trim p)).filter (· ≠ []) := by
  induction ps with
  | nil => rfl
  | cons p ps ih =>
    by_cases hn : Text.trim p = []
    · have hs : stripBars [] = [] := rfl
      simpa [hn, hs] using ih
    · rw [List.map_cons, List.filter_cons_of_pos (by simpa), List.map_cons, List.map_cons,
        List.filter_cons, List.filter_cons, ih]

theorem lineParts_markLine {line : Text} (h : '|' ∉ line) :
    ((Text.trimmedPieces ',' (markLine line)).map stripBars).filter (· ≠ []) =
      Text.trimmedPieces ',' line := by
  have hp : ∀ p ∈ Text.pieces ',' line, '|' ∉ p :=
    fun p hp => mt (Text.mem_of_mem_pieces hp) h
  rw [Text.trimmedPieces, filter_map_stripBars]
  refine congrArg (List.filter _) ?_
  unfold markLine
  split
  · exact List.map_congr_left fun p hm => stripBars_trim (hp p hm)
  · -- The bar that is added joins the last piece, and is stripped there.
    have hl := Text.dropLast_append_getLastD_pieces ',' line
    rw [Text.pieces_append_of_not_mem (by decide)]
    conv => rhs; rw [← hl]
    rw [List.map_append, List.map_append, List.map_singleton, List.map_singleton,
      stripBars_trim_append_bar,
      List.map_congr_left fun p hm => stripBars_trim (hp p (List.dropLast_subset _ hm))]

/-! ## Plain templates -/

theorem map_ofPart_of_not_mem {parts : List Text} (h : ∀ part ∈ parts, '|' ∉ part) :
    parts.map Slot.ofPart = parts.map Slot.fixed :=
  List.map_congr_left fun part hp => if_neg (h part hp)

theorem lines_of_lineFeed_not_mem {text : Text} (h : '\n' ∉ text) (hn : Text.trim text ≠ []) :
    lines text = [Text.trim text] := by
  rw [lines, Text.trimmedPieces, Text.pieces_of_not_mem h, List.map_singleton]
  exact List.filter_cons_of_pos (decide_eq_true hn)

/-- In both ways of resolving it, a text that is a single line without bars has its tags as
places. -/
theorem slots_of_plain {text : Text} (h : Plain text) :
    slots (lines text) = (Text.trimmedPieces ',' text).map Slot.fixed ∧
      lineSlots (lines text) = (Text.trimmedPieces ',' text).map Slot.fixed := by
  by_cases hn : Text.trim text = []
  · rw [lines_of_blank hn, Text.trimmedPieces_of_blank (Text.isBlank_of_trim_eq_nil hn)]
    exact ⟨rfl, lineSlots_nil⟩
  have hb : '|' ∉ Text.trim text := fun hm => h.bar ((Text.trim_sublist text).subset hm)
  have he : Text.endsIn '|' (Text.trim text) = false := by
    refine Bool.eq_false_iff.2 fun hl => hb ?_
    exact List.mem_of_getLast? (beq_iff_eq.1 hl)
  have hp : ∀ part ∈ Text.trimmedPieces ',' text, '|' ∉ part :=
    fun part hm => mt (Text.mem_of_mem_trimmedPieces hm) h.bar
  rw [lines_of_lineFeed_not_mem h.lineFeed hn, ← map_ofPart_of_not_mem hp]
  constructor
  · rw [slots_singleton he, Text.trimmedPieces_trim (by decide)]
  · rw [lineSlots, barred_singleton hb, lineParts_markLine hb, Text.trimmedPieces_trim (by decide)]

/-- From every source, a computation comes to the text and makes no choice. -/
def ComesTo (x : Draw Text) (text : Text) : Prop :=
  ∀ (σ : Type) [Source σ] (s : σ), (x.run s).value = text ∧ (x.run s).picks = []

theorem comesTo_of_fixed {x : Draw Text} {texts : List Text}
    (h : ∀ (σ : Type) [Source σ] (s : σ),
      let o := (Slot.fillAll (texts.map Slot.fixed)).run s
      (x.run s).value = [',', ' '].intercalate o.value ∧ (x.run s).picks = o.picks) :
    ComesTo x ([',', ' '].intercalate texts) := by
  intro σ _ s
  obtain ⟨hv, hp⟩ := h σ s
  obtain ⟨ht, hq⟩ := Slot.run_fillAll_fixed (s := s) texts
  rw [ht] at hv
  exact ⟨hv, hp.trans hq⟩

theorem comesTo_resolve {text : Text} (h : Plain text) :
    ComesTo (resolve text) (Tags.parse text).join :=
  comesTo_of_fixed fun _ _ s => (slots_of_plain h).1 ▸ run_resolve text s

theorem comesTo_resolveLines {text : Text} (h : Plain text) :
    ComesTo (resolveLines text) (Tags.parse text).join :=
  comesTo_of_fixed fun _ _ s => (slots_of_plain h).2 ▸ run_resolveLines text s

/-! ## Texts of templates -/

section
variable {σ : Type} [Source σ]

/-- Parts between commas come to texts that can stand between commas, and leave nothing to
choose. -/
theorem normal_fillAll {parts : List Text}
    (h : ∀ part ∈ parts, Text.IsPiece ',' part ∧ '\n' ∉ part) (s : σ) :
    (Tags.mk ((Slot.fillAll (parts.map Slot.ofPart)).run s).value).Normal ∧
      Plain ([',', ' '].intercalate ((Slot.fillAll (parts.map Slot.ofPart)).run s).value) := by
  have ha : ∀ t ∈ ((Slot.fillAll (parts.map Slot.ofPart)).run s).value,
      Text.IsPiece ',' t ∧ Plain t := by
    intro t ht
    obtain ⟨slot, hs, hm⟩ := Slot.mem_of_mem_fillAll ht
    obtain ⟨part, hp, rfl⟩ := List.mem_map.1 hs
    exact plain_of_mem_alternatives (h part hp).1 (h part hp).2 hm
  exact ⟨fun t ht => (ha t ht).1, plain_intercalate fun t ht => (ha t ht).2⟩

theorem plain_resolve (template : Text) (s : σ) : Plain ((resolve template).run s).value := by
  rw [(run_resolve template s).1]
  unfold slots
  split
  · refine plain_intercalate fun t ht => ?_
    obtain ⟨slot, hs, hm⟩ := Slot.mem_of_mem_fillAll ht
    rw [List.mem_singleton.1 hs] at hm
    exact plain_of_mem_groupOptions hm
  · exact (normal_fillAll (fun part => isPiece_of_mem_parts) s).2

theorem plain_resolveLines (template : Text) (s : σ) :
    Plain ((resolveLines template).run s).value := by
  rw [(run_resolveLines template s).1]
  exact (normal_fillAll (fun part => isPiece_of_mem_lineParts) s).2

theorem join_parse_resolve {template : Text} (h : ¬isMultilineGroup (lines template)) (s : σ) :
    (Tags.parse ((resolve template).run s).value).join = ((resolve template).run s).value := by
  rw [(run_resolve template s).1, slots, if_neg h]
  exact congrArg Tags.join (Tags.parse_join (normal_fillAll (fun _ => isPiece_of_mem_parts) s).1)

theorem join_parse_resolveLines (template : Text) (s : σ) :
    (Tags.parse ((resolveLines template).run s).value).join =
      ((resolveLines template).run s).value := by
  rw [(run_resolveLines template s).1]
  exact congrArg Tags.join (Tags.parse_join
    (normal_fillAll (fun _ => isPiece_of_mem_lineParts) s).1)

/-- Whatever was chosen in a template, its text is a single line without bars, and as a template it
comes to its tags without a choice. These are the text itself, unless the template was a multiline
group. The text of a template whose lines are alternatives stays as it is in both ways of resolving
it. -/
theorem stable_run_resolve (template : Text) (s : σ) :
    let text := ((resolve template).run s).value
    let lined := ((resolveLines template).run s).value
    (Plain text ∧ ComesTo (resolve text) (Tags.parse text).join ∧
      (¬isMultilineGroup (lines template) → (Tags.parse text).join = text)) ∧
    (Plain lined ∧ ComesTo (resolve lined) (Tags.parse lined).join ∧
      (Tags.parse lined).join = lined ∧ ComesTo (resolveLines lined) lined) := by
  intro text lined
  have hl : (Tags.parse lined).join = lined := join_parse_resolveLines template s
  have hp := plain_resolve template s
  have hq := plain_resolveLines template s
  have hc := comesTo_resolveLines hq
  rw [hl] at hc
  exact ⟨⟨hp, comesTo_resolve hp, fun h => join_parse_resolve h s⟩,
    hq, comesTo_resolve hq, hl, hc⟩

/-- A list keeps its text, and the option of a multiline group is written as its tags. -/
theorem stable_run_resolve_forms :
    let list := "solo, x | y,, z".toList
    let group := "a,,b|\nc".toList
    ¬isMultilineGroup (lines list) ∧
      ComesTo (resolve "solo, y, z".toList) "solo, y, z".toList ∧
      ((resolve group).run (Script.always 0)).value = "a,,b".toList ∧
      ComesTo (resolve "a,,b".toList) "a, b".toList := by
  intro list group
  have hl : ¬isMultilineGroup (lines list) := by decide
  have ht : ((resolve list).run (Script.always 1)).value = "solo, y, z".toList := by decide
  have hg : ((resolve group).run (Script.always 0)).value = "a,,b".toList := by decide
  have hj : (Tags.parse "a,,b".toList).join = "a, b".toList := by decide
  obtain ⟨⟨-, hc, he⟩, -⟩ := stable_run_resolve list (Script.always 1)
  obtain ⟨⟨-, hd, -⟩, -⟩ := stable_run_resolve group (Script.always 0)
  rw [he hl, ht] at hc
  rw [hg, hj] at hd
  exact ⟨hl, hc, hg, hd⟩

end

end Template

end PromptWeave
