import PromptWeave.Proofs.Wire.Grammar

/-! Wires with a separator.

No object holds the control character of the separator, so a wire that was put together with a
separator is cut at one. It need not be the one that was meant: an earlier one may stand in the
positive text, or begin at its end (`decode_encodeSeparated`). -/

namespace PromptWeave

namespace Wire

/-- The only control characters in an object are the space that may stand between tokens. -/
theorem IsObjectOf.uncontrolled {w : Text} {b : Bundle} (h : IsObjectOf w b) :
    Json.Uncontrolled w := by
  obtain ⟨hbefore, hobject, hafter, hp, hv, hpos, hneg⟩ := h
  rw [Json.uncontrolled_append, Json.uncontrolled_append]
  refine ⟨hbefore.uncontrolled, hobject.uncontrolled fun m hm => ?_, hafter.uncontrolled⟩
  have hm := hp.mem_iff.1 hm
  simp only [List.mem_cons, List.not_mem_nil, or_false] at hm
  rcases hm with rfl | rfl | rfl
  · exact hv.uncontrolled
  · exact hpos.uncontrolled
  · exact hneg.uncontrolled

theorem not_isObjectOf_of_mem {w : Text} (h : '\u001e' ∈ w) (b : Bundle) : ¬IsObjectOf w b :=
  fun hw => absurd (hw.uncontrolled _ h (by decide)) (by decide)

theorem mem_of_holds_separator {w : Text} (h : separator <:+: w) : '\u001e' ∈ w :=
  h.subset (by decide)

/-- A separator that reaches into another one shares only its last character with it. -/
theorem separator_overlap {x y : Text} (hx : x ≠ []) (hy : y ≠ []) (h : separator = x ++ y)
    (hp : y <+: separator) : x = "\u001eneg".toList := by
  have hsplit : ∀ k : Fin 5, 0 < k.val → separator.drop k <+: separator →
      separator.take k = "\u001eneg".toList := by decide
  have hl := congrArg List.length h
  rw [List.length_append] at hl
  have hlt : x.length < 5 := by
    have : separator.length = 5 := rfl
    have := List.length_pos_of_ne_nil hy
    omega
  have hk := hsplit ⟨x.length, hlt⟩ (List.length_pos_of_ne_nil hx)
  have hdrop : separator.drop x.length = y := by rw [h, List.drop_left]
  have htake : separator.take x.length = x := by rw [h, List.take_left]
  rw [hdrop, htake] at hk
  exact hk hp

/-- A separator that is put behind a text is the first one just if it does not stand in the text
before and does not begin at its end. -/
theorem firstAt_separator_iff {p n : Text} :
    Text.FirstAt separator (p ++ (separator ++ n)) p n ↔
      ¬separator <:+: p ∧ ¬"\u001eneg".toList <:+ p := by
  rw [Text.firstAt_append_iff (by decide)]
  refine and_congr_right fun _ => ⟨fun h => ?_, fun h x y hx hy hs hp => ?_⟩
  · exact h "\u001eneg".toList "\u001e".toList (by decide) (by decide) rfl (by decide)
  · rw [separator_overlap hx hy hs hp]
    exact h

/-- A wire with the control character of the separator is never read as an object. A wire that was
put together with a separator is cut at its first one, which is the one that was meant just if the
positive text neither holds a separator nor ends in one up to its last character. -/
theorem decode_encodeSeparated :
    (∀ w b, '\u001e' ∈ w → decode w ≠ structured b) ∧
      ∀ p n, ∃ a b, decode (encodeSeparated ⟨p, n⟩) = separated ⟨a, b⟩ ∧
        a ++ "\u001eneg\u001e".toList ++ b = encodeSeparated ⟨p, n⟩ ∧
        ¬"\u001eneg\u001e".toList <:+: a ∧
        ((a, b) = (p, n) ↔ ¬"\u001eneg\u001e".toList <:+: p ∧ ¬"\u001eneg".toList <:+ p) ∧
        ('\u001e' ∉ p → (a, b) = (p, n)) := by
  refine ⟨fun w b h hw => not_isObjectOf_of_mem h b (decode_eq_structured_iff.1 hw),
    fun p n => ?_⟩
  have he : encodeSeparated ⟨p, n⟩ = p ++ (separator ++ n) := List.append_assoc ..
  have hi : separator <:+: p ++ (separator ++ n) := ⟨p, n, by simp⟩
  obtain ⟨a, b, hf⟩ := Text.exists_firstAt hi
  have hd := (decode_eq_separated_iff (not_isObjectOf_of_mem (mem_of_holds_separator hi))).2 hf
  have hab : (a, b) = (p, n) ↔ ¬separator <:+: p ∧ ¬"\u001eneg".toList <:+ p := by
    rw [← firstAt_separator_iff (n := n)]
    constructor
    · rintro ⟨⟩
      exact hf
    · intro h
      exact Prod.ext_iff.2 (h.unique hf)
  refine ⟨a, b, he ▸ hd, ?_, hf.not_infix_before (by decide), hab,
    fun hp => hab.2 ⟨?_, ?_⟩⟩
  · rw [he, hf.1, List.append_assoc]
    rfl
  · exact fun h => hp (mem_of_holds_separator h)
  · exact fun h => hp (h.subset (by decide))

end Wire

end PromptWeave
