import PromptWeave.Proofs.Tags.History

/-! Reading a sequence that was written as text.

The tags of the text are those of the single tags (`parse_join_eq`). A tag that holds commas falls
apart, so a sequence whose tags are trimmed and not empty comes back just if none of them holds one
(`parse_join_eq_iff`). This is so for all sequences that can be made, since whatever was done to
them their tags are trimmed and not empty (`clean_of_mem_performAll`). -/

namespace PromptWeave

namespace Tags

theorem parse_join_eq (tags : Tags) :
    parse tags.join = ⟨tags.toList.flatMap fun t => (parse t).toList⟩ :=
  congrArg Tags.mk (trimmedPieces_join tags.toList)

/-- Written as text, a sequence keeps the places between its tags just if these hold no commas. -/
theorem parse_join_eq_iff {tags : Tags} (h : tags.Clean) :
    parse tags.join = tags ↔ ∀ t ∈ tags.toList, ',' ∉ t := by
  constructor
  · intro he t ht
    rw [← he] at ht
    exact (normal_parse tags.join t ht).not_mem
  · intro hc
    apply parse_join
    intro t ht
    exact ⟨(h t ht).1, (h t ht).2, hc t ht⟩

theorem clean_of_mem_performAll {σ : Type} [Source σ] {operations : List Operation} {s : σ}
    {entry : Entry} (h : entry ∈ ((performAll operations).run s).value) : entry.tags.Clean := by
  have hp : ∀ entry ∈ ([] : List Entry), entry.Sound := nofun
  exact (sound_foldlM operations hp s entry h).clean

/-- Whatever operations made a sequence, the tags of its text are those of its single tags, one
after the other, and they are the tags of the sequence just if none of these holds a comma. So a
text whose tags were read and written is left as it is by doing this again. -/
theorem parse_join_performAll {σ : Type} [Source σ] (operations : List Operation) (s : σ) :
    (∀ entry ∈ ((performAll operations).run s).value,
        parse entry.tags.join = ⟨entry.tags.toList.flatMap fun t => (parse t).toList⟩ ∧
          (parse entry.tags.join = entry.tags ↔ ∀ t ∈ entry.tags.toList, ',' ∉ t)) ∧
      ∀ text, parse (parse text).join = parse text ∧
        (parse (parse text).join).join = (parse text).join := by
  refine ⟨fun entry he => ⟨parse_join_eq entry.tags, ?_⟩, fun text => ?_⟩
  · exact parse_join_eq_iff (clean_of_mem_performAll he)
  · have h := parse_join (normal_parse text)
    exact ⟨h, congrArg join h⟩

/-- A sequence with a tag that is a comma, one between commas and one with a comma inside. -/
theorem parse_join_performAll_commas :
    let operations : List Operation :=
      [.ofList [" , ".toList, ",cat,".toList], .push 0 "a , b".toList, .push 0 "dog".toList]
    let entry : Entry :=
      ⟨⟨[",".toList, ",cat,".toList, "a , b".toList, "dog".toList]⟩, false⟩
    entry ∈ ((performAll operations).run (Script.always 0)).value ∧
      entry.tags.join = ",, ,cat,, a , b, dog".toList ∧
      parse entry.tags.join = ⟨["cat".toList, "a".toList, "b".toList, "dog".toList]⟩ ∧
      parse entry.tags.join ≠ entry.tags := by
  intro operations entry
  have he : entry ∈ ((performAll operations).run (Script.always 0)).value := by decide +kernel
  obtain ⟨hp, hi⟩ := (parse_join_performAll operations (Script.always 0)).1 entry he
  refine ⟨he, by decide, hp.trans (by decide), fun h => ?_⟩
  exact hi.1 h ",".toList (by decide) (by decide)

end Tags

end PromptWeave
