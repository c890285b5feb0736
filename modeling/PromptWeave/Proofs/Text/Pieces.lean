import Mathlib.Data.List.DropRight
import PromptWeave.Proofs.Text.Trimmed

/-! Pieces of texts that are put together.

Where two texts meet, the last piece of the first and the first piece of the second are one piece
(`pieces_append`), so a text without the mark stays within a single piece of any text around it
(`pieces_append_append`). The trimmed pieces do not depend on blanks at the ends of a text
(`trimmedPieces_trim`) or on marks at its end (`trimmedPieces_append_marks`), and those of a joined
row of texts are those of the texts (`trimmedPieces_intercalate`). -/

namespace PromptWeave

namespace Text

/-! ## Pieces -/

theorem pieces_append (mark : Char) (s t : Text) :
    pieces mark (s ++ t) =
      (pieces mark s).dropLast ++
        ((pieces mark s).getLastD [] ++ (pieces mark t).headD []) :: (pieces mark t).tail := by
  induction s with
  | nil =>
    obtain ⟨p, ps, hp⟩ := List.exists_cons_of_ne_nil (pieces_ne_nil mark t)
    simp [pieces, hp]
  | cons c s ih =>
    obtain ⟨p, ps, hp⟩ := List.exists_cons_of_ne_nil (pieces_ne_nil mark s)
    rw [List.cons_append, pieces, pieces, ih, hp]
    by_cases hc : c = mark
    · simp [hc]
    · -- The character joins the first piece, which is also the last one if there are no others.
      cases ps <;> simp [hc]

theorem pieces_append_append {mark : Char} {x : Text} (h : mark ∉ x) (s t : Text) :
    pieces mark (s ++ (x ++ t)) =
      (pieces mark s).dropLast ++
        ((pieces mark s).getLastD [] ++ (x ++ (pieces mark t).headD [])) ::
          (pieces mark t).tail := by
  rw [pieces_append, pieces_append mark x, pieces_of_not_mem h]
  rfl

theorem dropLast_append_getLastD_pieces (mark : Char) (s : Text) :
    (pieces mark s).dropLast ++ [(pieces mark s).getLastD []] = pieces mark s := by
  have h := pieces_append mark s []
  rwa [List.append_nil, pieces, List.headD_cons, List.append_nil, List.tail_cons, eq_comm] at h

theorem pieces_append_of_not_mem {mark : Char} {x : Text} (h : mark ∉ x) (s : Text) :
    pieces mark (s ++ x) = (pieces mark s).dropLast ++ [(pieces mark s).getLastD [] ++ x] := by
  rw [pieces_append, pieces_of_not_mem h]
  rfl

/-! ## Characters -/

theorem mem_of_mem_intercalate {sep : Text} {texts : List Text} {c : Char}
    (h : c ∈ sep.intercalate texts) : c ∈ sep ∨ ∃ t ∈ texts, c ∈ t := by
  induction texts with
  | nil => nomatch h
  | cons t texts ih =>
    cases texts with
    | nil => exact .inr ⟨t, List.mem_cons_self, by simpa using h⟩
    | cons u texts =>
      rw [List.intercalate_cons_cons, List.mem_append, List.mem_append] at h
      rcases h with (h | h) | h
      · exact .inr ⟨t, List.mem_cons_self, h⟩
      · exact .inl h
      · exact (ih h).imp_right fun ⟨v, hv, hc⟩ => ⟨v, List.mem_cons_of_mem t hv, hc⟩

theorem mem_intercalate {texts : List Text} {t : Text} {c : Char} (ht : t ∈ texts) (hc : c ∈ t)
    (sep : Text) : c ∈ sep.intercalate texts := by
  induction texts with
  | nil => nomatch ht
  | cons u texts ih =>
    cases texts with
    | nil =>
      rw [List.mem_singleton.1 ht] at hc
      simpa using hc
    | cons v texts =>
      rw [List.intercalate_cons_cons, List.append_assoc, List.mem_append, List.mem_append]
      rcases List.mem_cons.1 ht with rfl | ht
      · exact .inl hc
      · exact .inr (.inr (ih ht))

theorem mem_of_mem_pieces {mark : Char} {s p : Text} {c : Char} (hp : p ∈ pieces mark s)
    (hc : c ∈ p) : c ∈ s := by
  have hm := mem_intercalate hp hc [mark]
  rwa [intercalate_pieces] at hm

theorem mem_of_mem_trimmedPieces {mark : Char} {s p : Text} {c : Char}
    (hp : p ∈ trimmedPieces mark s) (hc : c ∈ p) : c ∈ s := by
  obtain ⟨q, hq, rfl⟩ := List.mem_map.1 (List.mem_filter.1 hp).1
  exact mem_of_mem_pieces hq ((trim_sublist q).subset hc)

/-! ## Ends -/

theorem blank_space : ∀ c ∈ [' '], isBlank c :=
  List.forall_mem_singleton.2 rfl

theorem exists_eq_dropEndWhile_append (p : Char → Bool) (s : Text) :
    ∃ dropped, (∀ c ∈ dropped, p c) ∧ s = dropEndWhile p s ++ dropped :=
  ⟨s.rtakeWhile p, fun _ => List.mem_rtakeWhile_imp,
    (List.rdropWhile_append_rtakeWhile ..).symm⟩

theorem dropEndWhile_append {p : Char → Bool} {t : Text} (h : ∀ c ∈ t, p c) (s : Text) :
    dropEndWhile p (s ++ t) = dropEndWhile p s := by
  rw [dropEndWhile, List.reverse_append, List.dropWhile_append_of_pos fun c hc =>
    h c (List.mem_reverse.1 hc)]
  rfl

theorem dropEndWhile_append_of_eq {p : Char → Bool} {s : Text} (h : dropEndWhile p s = s)
    (t : Text) : dropEndWhile p (s ++ t) = s ++ dropEndWhile p t := by
  have hs : s.reverse.dropWhile p = s.reverse := List.reverse_eq_iff.1 h
  rw [dropEndWhile, dropEndWhile, List.reverse_append, List.dropWhile_append]
  split
  · rename_i ht
    rw [hs, List.reverse_reverse, List.isEmpty_iff.1 ht, List.reverse_nil, List.append_nil]
  · rw [List.reverse_append, List.reverse_reverse]

theorem exists_eq_append_trim (s : Text) :
    ∃ before after, (∀ c ∈ before, isBlank c) ∧ (∀ c ∈ after, isBlank c) ∧
      s = before ++ (trim s ++ after) := by
  obtain ⟨after, ha, he⟩ := exists_eq_dropEndWhile_append isBlank (trimStart s)
  refine ⟨s.takeWhile isBlank, after, fun _ => List.mem_takeWhile_imp, ha, ?_⟩
  calc s = s.takeWhile isBlank ++ trimStart s := List.takeWhile_append_dropWhile.symm
    _ = s.takeWhile isBlank ++ (trim s ++ after) := by rw [trim, trimEnd, ← he]

theorem trim_append_of_blank {t : Text} (h : ∀ c ∈ t, isBlank c) (s : Text) :
    trim (s ++ t) = trim s := by
  by_cases hs : trimStart s = []
  · have hb : ∀ c ∈ s, isBlank c := List.dropWhile_eq_nil_iff.1 hs
    rw [trim_eq_nil_of_blank hb, trim_eq_nil_of_blank (List.forall_mem_append.2 ⟨hb, h⟩)]
  · have ha : trimStart (s ++ t) = trimStart s ++ t := by
      rw [trimStart, List.dropWhile_append, if_neg]
      · rfl
      · simpa [trimStart] using hs
    rw [trim, trim, trimEnd, ha, dropEndWhile_append h]
    rfl

theorem trim_of_blank_append {s : Text} (h : ∀ c ∈ s, isBlank c) (t : Text) :
    trim (s ++ t) = trim t := by
  rw [trim, trimStart, List.dropWhile_append_of_pos h]
  rfl

/-! ## Trimmed pieces -/

section
variable {mark : Char} {s t : Text}

theorem trimmedPieces_append_of_blank (h : ∀ c ∈ t, isBlank c) (hm : mark ∉ t) (s : Text) :
    trimmedPieces mark (s ++ t) = trimmedPieces mark s := by
  rw [trimmedPieces, trimmedPieces, pieces_append, pieces_of_not_mem hm]
  conv => rhs; rw [← dropLast_append_getLastD_pieces mark s]
  simp [trim_append_of_blank h]

theorem trimmedPieces_of_blank_append (h : ∀ c ∈ s, isBlank c) (hm : mark ∉ s) (t : Text) :
    trimmedPieces mark (s ++ t) = trimmedPieces mark t := by
  induction s with
  | nil => rfl
  | cons c s ih =>
    rw [List.forall_mem_cons] at h
    rw [List.mem_cons, not_or] at hm
    rw [List.cons_append, trimmedPieces_cons_of_blank h.1 (Ne.symm hm.1), ih h.2 hm.2]

theorem not_mem_of_blank (hb : isBlank mark = false) (h : ∀ c ∈ s, isBlank c) : mark ∉ s := by
  intro hm
  rw [h mark hm] at hb
  cases hb

theorem trimmedPieces_trim (hb : isBlank mark = false) (s : Text) :
    trimmedPieces mark (trim s) = trimmedPieces mark s := by
  obtain ⟨before, after, hbefore, hafter, he⟩ := exists_eq_append_trim s
  conv => rhs; rw [he]
  rw [trimmedPieces_of_blank_append hbefore (not_mem_of_blank hb hbefore),
    trimmedPieces_append_of_blank hafter (not_mem_of_blank hb hafter)]

theorem trimmedPieces_append_marks (h : ∀ c ∈ t, c = mark) (s : Text) :
    trimmedPieces mark (s ++ t) = trimmedPieces mark s := by
  induction t generalizing s with
  | nil => rw [List.append_nil]
  | cons c t ih =>
    obtain ⟨rfl, ht⟩ := List.forall_mem_cons.1 h
    have hn : trimmedPieces c t = [] := ih ht []
    rw [trimmedPieces_append_cons, hn, List.append_nil]

theorem trimmedPieces_append_of_blank_or_mark (h : ∀ c ∈ t, isBlank c ∨ c = mark) (s : Text) :
    trimmedPieces mark (s ++ t) = trimmedPieces mark s := by
  induction t generalizing s with
  | nil => rw [List.append_nil]
  | cons c t ih =>
    obtain ⟨hc, ht⟩ := List.forall_mem_cons.1 h
    have hs : trimmedPieces mark (s ++ [c]) = trimmedPieces mark s := by
      by_cases hm : c = mark
      · exact trimmedPieces_append_marks (List.forall_mem_singleton.2 hm) s
      · exact trimmedPieces_append_of_blank (List.forall_mem_singleton.2 (hc.resolve_right hm))
          (mt List.mem_singleton.1 (Ne.symm hm)) s
    rw [List.append_cons, ih ht, hs]

theorem trimmedPieces_intercalate (hb : isBlank mark = false) (before after : Text)
    (hbefore : ∀ c ∈ before, isBlank c) (hafter : ∀ c ∈ after, isBlank c)
    (texts : List Text) :
    trimmedPieces mark ((before ++ mark :: after).intercalate texts) =
      texts.flatMap (trimmedPieces mark) := by
  induction texts with
  | nil => rfl
  | cons t ts ih =>
    cases ts with
    | nil => simp
    | cons u ts =>
      have he : t ++ (before ++ mark :: after) ++ (before ++ mark :: after).intercalate (u :: ts) =
          t ++ before ++ mark :: (after ++ (before ++ mark :: after).intercalate (u :: ts)) := by
        simp
      rw [List.flatMap_cons, List.intercalate_cons_cons, he, trimmedPieces_append_cons,
        trimmedPieces_append_of_blank hbefore (not_mem_of_blank hb hbefore),
        trimmedPieces_of_blank_append hafter (not_mem_of_blank hb hafter), ih]

end

end Text

end PromptWeave
