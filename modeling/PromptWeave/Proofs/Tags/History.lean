import PromptWeave.Draw.Script
import PromptWeave.Node.Shape
import PromptWeave.Proofs.Json.Recognition
import PromptWeave.Proofs.Tags.Combine
import PromptWeave.Proofs.Tags.Dedupe

/-! Sequences along a history of operations.

A pool holds all sequences that were made so far, and each operation makes another one of them or
changes one in place. With a sequence goes a mark that says whether all of its text came in by
parsing. Each operation keeps the tags trimmed and not empty, and those of marked sequences without
commas (`sound_perform`), and so does every history (`sound_performAll`). -/

namespace PromptWeave

namespace Tags

/-! ## Making sequences -/

theorem exists_of_parse_shape {s : Text} {tags : Tags} (h : Tags.shape.parse s = .ok tags) :
    ∃ ts, tags = ofList ts := by
  obtain ⟨rest, hr, -⟩ := Json.Shape.parse_eq_ok_iff.1 h
  obtain ⟨⟨ts, rest'⟩, -, he⟩ := Json.exists_of_map_eq_ok hr
  cases he
  exact ⟨ts, rfl⟩

/-! ## Operations -/

/-- A sequence of a pool. -/
structure Entry where
  tags : Tags := empty
  /-- All of its text came in by parsing. -/
  parsed : Bool := true
deriving DecidableEq

/-- An operation on a pool, whose sequences are named by their positions. -/
inductive Operation where
  | create
  | parse (text : Text)
  /-- The sequence of a list of tags, or of tags that come one after the other. -/
  | ofList (tags : List Text)
  /-- The sequence that a JSON text describes, if it does. -/
  | read (json : Text)
  | push (target : Nat) (tag : Text)
  | extend (target source : Nat)
  | combine (mode : Mode) (own : Nat) (inputs : List Nat) (switchIndex : Nat)
  | interleave (sequences : List Nat)
  | dedupe (source : Nat)

/-- The sequence at a position of a pool, or an empty one. -/
def entryAt (pool : List Entry) (i : Nat) : Entry :=
  pool.getD i {}

def perform (pool : List Entry) : Operation → Draw (List Entry)
  | .create => pure (pool ++ [{}])
  | .parse text => pure (pool ++ [⟨Tags.parse text, true⟩])
  | .ofList tags => pure (pool ++ [⟨Tags.ofList tags, false⟩])
  | .read json =>
    match Tags.shape.parse json with
    | .ok tags => pure (pool ++ [⟨tags, false⟩])
    | .error _ => pure pool
  | .push target tag => pure (pool.modify target fun entry => ⟨entry.tags.push tag, false⟩)
  | .extend target source =>
    let other := entryAt pool source
    pure (pool.modify target fun entry =>
      ⟨entry.tags ++ other.tags, entry.parsed && other.parsed⟩)
  | .combine mode own inputs switchIndex => do
    let own := entryAt pool own
    let inputs := inputs.map (entryAt pool)
    let tags ← Tags.combine mode own.tags (inputs.map Entry.tags) switchIndex
    return pool ++ [⟨tags, own.parsed && inputs.all Entry.parsed⟩]
  | .interleave sequences =>
    let sequences := sequences.map (entryAt pool)
    pure (pool ++ [⟨Tags.interleave (sequences.map Entry.tags), sequences.all Entry.parsed⟩])
  | .dedupe source =>
    let entry := entryAt pool source
    pure (pool ++ [⟨entry.tags.dedupe, entry.parsed⟩])

/-- Performs operations in order, on a pool that is empty at first. -/
def performAll (operations : List Operation) : Draw (List Entry) :=
  operations.foldlM perform []

/-! ## One operation -/

/-- What a tag of a sequence can be. -/
structure Allowed (parsed : Bool) (t : Text) : Prop where
  ne_nil : t ≠ []
  trimmed : Text.Trimmed t
  not_mem : parsed = true → ',' ∉ t

theorem Allowed.mono {parsed parsed' : Bool} {t : Text} (h : Allowed parsed t)
    (hp : parsed' = true → parsed = true) : Allowed parsed' t :=
  ⟨h.ne_nil, h.trimmed, fun hp' => h.not_mem (hp hp')⟩

def Entry.Sound (entry : Entry) : Prop :=
  ∀ t ∈ entry.tags.toList, Allowed entry.parsed t

theorem Entry.sound_empty : Entry.Sound {} := nofun

theorem Entry.sound_parse (text : Text) : Entry.Sound ⟨Tags.parse text, true⟩ := by
  intro t ht
  have hp := Text.isPiece_of_mem_trimmedPieces ht
  exact ⟨hp.ne_nil, hp.trimmed, fun _ => hp.not_mem⟩

theorem Entry.sound_of_clean {tags : Tags} (h : tags.Clean) : Entry.Sound ⟨tags, false⟩ :=
  fun t ht => ⟨(h t ht).1, (h t ht).2, nofun⟩

theorem Entry.Sound.clean {entry : Entry} (h : entry.Sound) : entry.tags.Clean :=
  fun t ht => ⟨(h t ht).ne_nil, (h t ht).trimmed⟩

theorem Clean.push {tags : Tags} (h : tags.Clean) (tag : Text) : (tags.push tag).Clean := by
  unfold Tags.push
  split
  · exact h
  · rename_i hn
    intro t ht
    rcases List.mem_append.1 ht with ht | ht
    · exact h t ht
    · rw [List.mem_singleton.1 ht]
      exact ⟨hn, Text.trimmed_trim tag⟩

section
variable {pool : List Entry} (h : ∀ entry ∈ pool, entry.Sound)
include h

theorem sound_entryAt (i : Nat) : (entryAt pool i).Sound := by
  rw [entryAt, List.getD_eq_getElem?_getD]
  cases hi : pool[i]? with
  | none => exact Entry.sound_empty
  | some entry => exact h entry (List.mem_of_getElem? hi)

theorem sound_append {entry : Entry} (he : entry.Sound) : ∀ e ∈ pool ++ [entry], e.Sound :=
  List.forall_mem_append.2 ⟨h, List.forall_mem_singleton.2 he⟩

theorem sound_modify {f : Entry → Entry} (hf : ∀ entry : Entry, entry.Sound → (f entry).Sound)
    (i : Nat) : ∀ e ∈ pool.modify i f, e.Sound := by
  intro e he
  obtain ⟨j, hj⟩ := List.mem_iff_getElem?.1 he
  rw [List.getElem?_modify] at hj
  obtain ⟨entry, hm, rfl⟩ := Option.map_eq_some_iff.1 hj
  have hs := h entry (List.mem_of_getElem? hm)
  split
  · exact hf entry hs
  · exact hs

/-- Tags that were taken from some sequences of the pool are allowed where all of these were
parsed. -/
theorem allowed_of_mem_map {is : List Nat} {tags : Tags} {t : Text}
    (hm : tags ∈ (is.map (entryAt pool)).map Entry.tags) (ht : t ∈ tags.toList) :
    Allowed ((is.map (entryAt pool)).all Entry.parsed) t := by
  obtain ⟨entry, he, rfl⟩ := List.mem_map.1 hm
  obtain ⟨i, -, hi⟩ := List.mem_map.1 he
  refine (hi ▸ sound_entryAt h i : entry.Sound) t ht |>.mono fun hp => ?_
  exact List.all_eq_true.1 hp entry he

/-- Each operation keeps all sequences of a pool sound. -/
theorem sound_perform {σ : Type} [Source σ] (operation : Operation) (s : σ) :
    ∀ entry ∈ ((perform pool operation).run s).value, entry.Sound := by
  cases operation with
  | create => exact sound_append h Entry.sound_empty
  | parse text => exact sound_append h (Entry.sound_parse text)
  | ofList tags => exact sound_append h (Entry.sound_of_clean (clean_ofList tags))
  | read json =>
    simp only [perform]
    split
    · rename_i tags ht
      obtain ⟨ts, rfl⟩ := exists_of_parse_shape ht
      exact sound_append h (Entry.sound_of_clean (clean_ofList ts))
    · exact h
  | push target tag =>
    exact sound_modify h (fun entry he => Entry.sound_of_clean (he.clean.push tag)) target
  | extend target source =>
    refine sound_modify h (fun entry he t ht => ?_) target
    rcases List.mem_append.1 ht with ht | ht
    · exact (he t ht).mono fun hp => (Bool.and_eq_true_iff.1 hp).1
    · exact (sound_entryAt h source t ht).mono fun hp => (Bool.and_eq_true_iff.1 hp).2
  | combine mode own inputs switchIndex =>
    simp only [perform, Draw.run_bind, Draw.run_pure]
    refine sound_append h fun t ht => ?_
    -- A merge takes tags and makes none.
    rcases mem_of_mem_combine ht with ht | ⟨tags, hm, ht⟩
    · exact (sound_entryAt h own t ht).mono fun hp => (Bool.and_eq_true_iff.1 hp).1
    · exact (allowed_of_mem_map h hm ht).mono fun hp => (Bool.and_eq_true_iff.1 hp).2
  | interleave sequences =>
    refine sound_append h fun t ht => ?_
    obtain ⟨tags, hm, ht⟩ := mem_of_mem_interleave ht
    exact allowed_of_mem_map h hm ht
  | dedupe source =>
    refine sound_append h fun t ht => sound_entryAt h source t ?_
    exact (dedupeAfter_sublist _ _).subset ht

end

/-! ## Histories -/

theorem sound_foldlM {σ : Type} [Source σ] (operations : List Operation) {pool : List Entry}
    (h : ∀ entry ∈ pool, entry.Sound) (s : σ) :
    ∀ entry ∈ ((operations.foldlM perform pool).run s).value, entry.Sound := by
  induction operations generalizing pool s with
  | nil => exact h
  | cons operation operations ih =>
    rw [List.foldlM_cons, Draw.run_bind]
    exact ih (sound_perform h operation s) _

/-- Whatever operations were performed, with whatever texts and choices, all tags of all sequences
are trimmed and not empty, and those of a sequence whose text all came in by parsing hold no
commas. -/
theorem sound_performAll {σ : Type} [Source σ] (operations : List Operation) (s : σ) :
    ∀ entry ∈ ((performAll operations).run s).value, ∀ t ∈ entry.tags.toList,
      t ≠ [] ∧ Text.Trimmed t ∧ (entry.parsed = true → ',' ∉ t) := by
  intro entry he t ht
  have hp : ∀ entry ∈ ([] : List Entry), entry.Sound := nofun
  have ha := sound_foldlM operations hp s entry he t ht
  exact ⟨ha.ne_nil, ha.trimmed, ha.not_mem⟩

/-- In the end the pool holds a sequence with commas in two tags, one pushed and one read, and
another that was parsed, interleaved with itself and freed of repetitions. -/
theorem sound_performAll_mixed :
    let operations : List Operation := [
      .parse " red ,, blue\u3000".toList, .ofList [" a, b ".toList, " ".toList],
      .read "[\"\\u0085cat \", \"\", \"dog,\"]".toList, .create, .extend 3 0, .push 3 " x,y".toList,
      .combine .randomize 3 [1, 2] 0, .interleave [0, 0], .dedupe 5]
    let pool := ((performAll operations).run (Script.always 1)).value
    let mixed : Entry :=
      ⟨⟨["red".toList, "blue".toList, "x,y".toList, "cat".toList, "dog,".toList]⟩, false⟩
    let parsed : Entry := ⟨⟨["red".toList, "blue".toList]⟩, true⟩
    mixed ∈ pool ∧ "x,y".toList ∈ mixed.tags.toList ∧ Text.Trimmed "x,y".toList ∧
      pool.getLast? = some parsed ∧ "blue".toList ∈ parsed.tags.toList ∧
      ',' ∉ "blue".toList := by
  intro operations pool mixed parsed
  have hp : mixed ∈ pool ∧ pool.getLast? = some parsed := by decide +kernel
  have hm : "x,y".toList ∈ mixed.tags.toList := by decide
  have hb : "blue".toList ∈ parsed.tags.toList := by decide
  have hs := sound_performAll operations (Script.always 1)
  exact ⟨hp.1, hm, (hs mixed hp.1 _ hm).2.1, hp.2, hb,
    (hs parsed (List.mem_of_getLast? hp.2) _ hb).2.2 rfl⟩

end Tags

end PromptWeave
