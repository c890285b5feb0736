import PromptWeave.Node.Request
import PromptWeave.Node.Response
import PromptWeave.Proofs.Json.Kept
import PromptWeave.Proofs.Tags.Normal

/-! Values that hosts and nodes exchange.

However the text of a value was laid out, the texts that are written for the value are read as that
value and written again as they are (`settled_of_parse`). -/

namespace PromptWeave

namespace Json

theorem mem_toOption_iff {ε α : Type} {x : Except ε α} {a : α} :
    a ∈ x.toOption ↔ x = .ok a := by
  cases x <;> simp [Except.toOption, eq_comm]

namespace Shape

/-- Both texts of a value are read as that value, and what was read is written as the same text
again. -/
def Settled {α : Type} (shape : Shape α) (a : α) : Prop :=
  ∀ print ∈ [compact, pretty], ∃ b, shape.parse (print (shape.write a)) = .ok b ∧ b = a ∧
    print (shape.write b) = print (shape.write a)

section
variable {α : Type} {shape : Shape α} {need : Nat}

theorem ReadsBack.settled {a : α} (h : shape.ReadsBack need a) (hn : need ≤ greatestDepth) :
    shape.Settled a := by
  have hp {layout : Layout} (hl : layout.Blank) :
      shape.parse (Json.write layout 0 (shape.write a)) = .ok a := by
    have hr := h layout hl greatestDepth 0 [] [] hn (List.forall_mem_nil _) nofun
    rw [List.nil_append, List.append_nil] at hr
    exact parse_eq_ok_iff.2 ⟨[], hr, rfl⟩
  intro print hprint
  rw [List.mem_cons, List.mem_singleton] at hprint
  rcases hprint with rfl | rfl
  · exact ⟨a, hp Layout.blank_compact, rfl, rfl⟩
  · exact ⟨a, hp Layout.blank_pretty, rfl, rfl⟩

theorem Stable.settled (h : shape.Stable need) (hn : need ≤ greatestDepth) (s : Text) (a : α)
    (hp : shape.parse s = .ok a) : shape.Settled a := by
  obtain ⟨rest, hr, -⟩ := parse_eq_ok_iff.1 hp
  exact (h hr).settled hn

end

end Shape

end Json

open Json Json.Shape

/-! ## Records -/

theorem Bundle.regular_record : record.Regular 0 where
  toRow_ofRow _ := rfl
  keys := by decide
  stable := ⟨text_stable, text_stable, trivial⟩
  standard := nofun

theorem State.regular_record : record.Regular 0 where
  toRow_ofRow _ := rfl
  keys := by decide
  stable := ⟨named_stable, natural_stable (Nat.le_refl _), flag_stable, text_stable, text_stable,
    flag_stable, trivial⟩
  standard := by
    rintro _ ⟨⟩
    exact ⟨named_readsBack rfl, natural_readsBack (Nat.le_refl _) (by decide), flag_readsBack _,
      text_readsBack _, text_readsBack _, flag_readsBack _, trivial⟩

theorem Inputs.regular_record : record.Regular 1 where
  toRow_ofRow _ := rfl
  keys := by decide
  stable := ⟨text_stable.mono (Nat.zero_le 1), text_stable.mono (Nat.zero_le 1),
    fun _ _ _ wires _ => texts_readsBack wires, trivial⟩
  standard := by
    rintro _ ⟨⟩
    exact ⟨(text_readsBack _).mono (Nat.zero_le 1), (text_readsBack _).mono (Nat.zero_le 1),
      texts_readsBack _, trivial⟩

theorem Output.regular_record : record.Regular 0 where
  toRow_ofRow _ := rfl
  keys := by decide
  stable := ⟨text_stable, text_stable, text_stable, text_stable, trivial⟩
  standard := nofun

theorem Response.regular_record : record.Regular 0 where
  toRow_ofRow _ := rfl
  keys := by decide
  stable := ⟨text_stable, text_stable, text_stable, text_stable, trivial⟩
  standard := nofun

theorem Request.regular_record : record.Regular 0 where
  toRow_ofRow _ := rfl
  keys := by decide
  stable := ⟨text_stable, text_stable, text_stable, integer_stable _ _ _, flag_stable,
    text_stable, text_stable, flag_stable, trivial⟩
  standard := by
    rintro _ ⟨⟩
    exact ⟨text_readsBack _, text_readsBack _, text_readsBack _,
      integer_readsBack (by decide) (by decide), flag_readsBack _, text_readsBack _,
      text_readsBack _, flag_readsBack _, trivial⟩

/-! ## Tags -/

/-- Tags are trimmed when they are read, and trimming them again when they are read back changes
nothing. -/
theorem Tags.shape_stable : shape.Stable 1 := by
  intro depth s rest tags h
  obtain ⟨⟨ts, s'⟩, -, he⟩ := exists_of_map_eq_ok h
  cases he
  exact (texts_readsBack _).map (ofList_toList (clean_ofList ts))

/-! ## Requests -/

/-- A request that was read is read back, if there are no floating-point numbers in its slots. -/
theorem Request.readsBack_of_read {depth : Nat} {s rest : Text} {r : Request}
    (h : shape.read depth s = .ok (r, rest)) (hf : ∀ m ∈ r.slots, m.2.floatless) :
    shape.ReadsBack depth r := by
  change read depth s = _ at h
  unfold read at h
  split at h
  · cases h
  split at h
  · split at h
    · cases h
    rename_i depth
    obtain ⟨⟨⟨row, slots⟩, s₁⟩, hrow, h⟩ := exists_of_bind_eq_ok h
    obtain ⟨fields, hfields, h⟩ := exists_of_bind_eq_ok h
    cases h
    have hr : record.ReadsBack 0 fields := regular_record.readsBack_of_complete
      (PartialRow.readsBack_of_readFields regular_record.stable hrow) hfields
    intro layout hl depth' outer space rest hd hs _
    obtain ⟨depth', rfl⟩ := Nat.exists_eq_succ_of_ne_zero (Nat.ne_zero_of_lt hd)
    obtain ⟨inside, hw, hi⟩ := readFields_write_kept regular_record.keys
      hr.row (Nat.zero_le depth')
      (kept_of_readFields hrow) hf (Nat.le_of_succ_le_succ hd) hl outer rest
    change read (depth' + 1) (space ++ (Json.write layout outer
      (.object (Row.members record.fields (record.toRow fields) ++ slots)) ++ rest)) = _
    rw [hw, read, skipSpace_append_cons hs (by decide)]
    simp [hi, record.complete_full, hr.ofRow_toRow, bind, Except.bind, pure, Except.pure]
  · cases h

/-! ## Exchange -/

/-- Whatever text a value was read from, both texts of the value are read as it, and are written for
what is read. Of requests this is said if there are no floating-point numbers in their slots. -/
theorem settled_of_parse :
    (∀ s mode, Mode.shape.parse s = .ok mode → Mode.shape.Settled mode) ∧
    (∀ s channel, Channel.shape.parse s = .ok channel → Channel.shape.Settled channel) ∧
    (∀ s b, Bundle.record.shape.parse s = .ok b → Bundle.record.shape.Settled b) ∧
    (∀ s state, State.record.shape.parse s = .ok state → State.record.shape.Settled state) ∧
    (∀ s tags, Tags.shape.parse s = .ok tags → Tags.shape.Settled tags) ∧
    (∀ s inputs, Inputs.record.shape.parse s = .ok inputs →
      Inputs.record.shape.Settled inputs) ∧
    (∀ s output, Output.record.shape.parse s = .ok output →
      Output.record.shape.Settled output) ∧
    (∀ s request, Request.shape.parse s = .ok request →
      (∀ m ∈ request.slots, m.2.floatless) → Request.shape.Settled request) ∧
    (∀ s response, Response.record.shape.parse s = .ok response →
      Response.record.shape.Settled response) := by
  refine ⟨named_stable.settled (by decide), named_stable.settled (by decide),
    Bundle.regular_record.shape_stable.settled (by decide),
    State.regular_record.shape_stable.settled (by decide),
    Tags.shape_stable.settled (by decide),
    Inputs.regular_record.shape_stable.settled (by decide),
    Output.regular_record.shape_stable.settled (by decide),
    fun s request hp hf => ?_,
    Response.regular_record.shape_stable.settled (by decide)⟩
  obtain ⟨rest, hr, -⟩ := parse_eq_ok_iff.1 hp
  exact (Request.readsBack_of_read hr hf).settled (Nat.le_refl _)

/-- A request in which the slot of an input and a member inside another slot are given twice,
settings from a list that ends early, and a mode from an object. -/
theorem settled_of_parse_forms :
    let text := "\x7b\"x\": [1, \x7b\"z\": 7, \"a\": -5, \"z\": true\x7d], " ++
      "\"input_1\": 7, \"input_1\": \"b\"\x7d"
    let slots := "\x7b\"input_1\":\"b\",\"x\":[1,\x7b\"a\":-5,\"z\":true\x7d]\x7d"
    let state : State := { mode := .combine, switchIndex := 3 }
    (∃ request, Request.shape.parse text.toList = .ok request ∧
      (∀ m ∈ request.slots, m.2.floatless) ∧
      compact (.object request.slots) = slots.toList ∧ Request.shape.Settled request) ∧
    State.record.shape.parse "[\"Combine\", 3]".toList = .ok state ∧
    State.record.shape.Settled state ∧
    Mode.shape.parse "\x7b\"Switch\": null\x7d".toList = .ok .switch ∧
    Mode.shape.Settled .switch := by
  intro text slots state
  have hr : ∃ request ∈ (Request.shape.parse text.toList).toOption,
      (∀ m ∈ request.slots, m.2.floatless) ∧
      compact (.object request.slots) = slots.toList := by
    decide +kernel
  obtain ⟨request, hr, hf, hw⟩ := hr
  rw [mem_toOption_iff] at hr
  have hs : State.record.shape.parse "[\"Combine\", 3]".toList = .ok state :=
    mem_toOption_iff.1 (by decide +kernel)
  have hm : Mode.shape.parse "\x7b\"Switch\": null\x7d".toList = .ok .switch :=
    mem_toOption_iff.1 (by decide +kernel)
  obtain ⟨ofMode, -, -, ofState, -, -, -, ofRequest, -⟩ := settled_of_parse
  exact ⟨⟨request, hr, hf, hw, ofRequest _ _ hr hf⟩, hs, ofState _ _ hs, hm, ofMode _ _ hm⟩

end PromptWeave
