import PromptWeave.Proofs.Command.Settings
import PromptWeave.Proofs.Json.Condensed
import PromptWeave.Proofs.Node.Exchange

/-! What a run prints.

A run that evaluates a request either prints the response and ends well, or prints nothing and fails
(`run_prints_answer`). The printed text is read back as the response, in whatever layout. -/

namespace PromptWeave

namespace Response

theorem settled (r : Response) : record.shape.Settled r := by
  have hr : record.ReadsBack 0 r := by
    refine ⟨rfl, ?_, ?_, ?_, ?_, trivial⟩ <;> exact Json.Shape.text_readsBack _
  exact (hr.shape regular_record.keys).settled (by decide)

/-- A text is the document that is printed for a response: it is read back as that response, and its
layout is only a matter of space between tokens. -/
structure IsDocument (r : Response) (pretty : Bool) (document : Text) : Prop where
  eq_print : document = if pretty then r.toJson.pretty else r.toJson.compact
  parse_eq : record.shape.parse document = .ok r
  condense_eq : Json.condense document = r.toJson.compact

theorem parse_print (r : Response) : ∀ print ∈ [Json.compact, Json.pretty],
    record.shape.parse (print r.toJson) = .ok r := by
  intro print hprint
  obtain ⟨_, hparse, rfl, -⟩ := r.settled print hprint
  exact hparse

theorem isDocument_print (r : Response) (pretty : Bool) :
    r.IsDocument pretty (if pretty then r.toJson.pretty else r.toJson.compact) := by
  -- The layout is made a variable, so that the reader is not run on the texts.
  have hprint : ∃ print ∈ [Json.compact, Json.pretty],
      (if pretty then r.toJson.pretty else r.toJson.compact) = print r.toJson := by
    cases pretty with
    | true => exact ⟨Json.pretty, by simp, rfl⟩
    | false => exact ⟨Json.compact, by simp, rfl⟩
  obtain ⟨print, hmem, he⟩ := hprint
  rw [he]
  exact ⟨he.symm, r.parse_print print hmem, Json.condense_print r.toJson print hmem⟩

end Response

namespace Command

/-- The request in a text is answered with a response by the node of a type. All choices come from
one seed. -/
def Answers (nodeType : Text) (seed : UInt64) (text : Text) (r : Response) : Prop :=
  ∃ request, Request.shape.parse text = .ok request ∧
    ((Registry.builtin.evaluate nodeType request).run (Seeded.ofSeed seed)).value = .ok r

/-- The text at the path of the arguments, or else the one on the standard input. -/
def Surroundings.requestSource (s : Surroundings) (a : Arguments) : Except ReadFault Text :=
  match a.requestPath with
  | some path => s.file path
  | none => s.input

theorem mapError_eq_ok_iff {ε ε' α : Type} {x : Except ε α} {f : ε → ε'} {a : α} :
    x.mapError f = .ok a ↔ x = .ok a := by
  cases x <;> simp [Except.mapError]

section
variable {s : Surroundings} {a : Arguments} {text : Text} {seed : Nat}

/-! ## Responses -/

theorem request_eq_ok_iff (ht : s.requestSource a = .ok text) {request : Request} :
    Command.request s a = .ok request ↔ Request.shape.parse text = .ok request := by
  have hr : requestText s a = .ok text := by
    unfold requestText
    unfold Surroundings.requestSource at ht
    cases hp : a.requestPath with
    | none =>
      rw [hp] at ht
      exact mapError_eq_ok_iff.2 ht
    | some path =>
      rw [hp] at ht
      exact mapError_eq_ok_iff.2 ht
  rw [Command.request, hr]
  exact mapError_eq_ok_iff

/-- A run has a response just if the request in its text is answered with it. -/
theorem respond_eq_ok_iff (ht : s.requestSource a = .ok text)
    (hs : seedInEffect a s.fileSettings? = some seed) {r : Response} :
    (Command.request s a).bind (respond (settings s a) s.freshSeed) = .ok r ↔
      Answers (nodeTypeInEffect a s.fileSettings?) (UInt64.ofNat seed) text r := by
  have hrespond (request : Request) : respond (settings s a) s.freshSeed request = .ok r ↔
      ((Registry.builtin.evaluate (nodeTypeInEffect a s.fileSettings?) request).run
        (Seeded.ofSeed (UInt64.ofNat seed))).value = .ok r := by
    rw [respond, settings_eq, hs]
    exact mapError_eq_ok_iff
  constructor
  · intro h
    obtain ⟨request, hr, h⟩ := Json.exists_of_bind_eq_ok h
    exact ⟨request, (request_eq_ok_iff ht).1 hr, (hrespond request).1 h⟩
  · rintro ⟨request, hr, h⟩
    rw [(request_eq_ok_iff ht).2 hr]
    exact (hrespond request).2 h

/-! ## Runs -/

/-- A response is printed as one document. -/
theorem run_of_answers (ha : Arguments.parse s.arguments = .ok a) (hl : a.list = false)
    (ht : s.requestSource a = .ok text) (hs : seedInEffect a s.fileSettings? = some seed)
    {r : Response}
    (hr : Answers (nodeTypeInEffect a s.fileSettings?) (UInt64.ofNat seed) text r) :
    (run s).ending = .done ∧ ∃ document, (run s).output = document ++ ['\n'] ∧
      r.IsDocument (prettyInEffect a s.fileSettings?) document := by
  have hx := (respond_eq_ok_iff ht hs).2 hr
  have hrun : (run s).ending = .done ∧ (run s).output = rendered (settings s a) r := by
    simp [run, ha, hl, hx]
  rw [rendered, settings_eq] at hrun
  exact ⟨hrun.1, _, hrun.2, r.isDocument_print _⟩

/-- Without a response, the run fails and prints nothing. -/
theorem run_of_not_answers (ha : Arguments.parse s.arguments = .ok a) (hl : a.list = false)
    (ht : s.requestSource a = .ok text) (hs : seedInEffect a s.fileSettings? = some seed)
    (hn : ¬∃ r, Answers (nodeTypeInEffect a s.fileSettings?) (UInt64.ofNat seed) text r) :
    (∃ f, (run s).ending = .failed f) ∧ (run s).output = [] := by
  cases hx : (Command.request s a).bind (respond (settings s a) s.freshSeed) with
  | ok r => exact absurd ⟨r, (respond_eq_ok_iff ht hs).1 hx⟩ hn
  | error f => simp [run, ha, hl, hx]

end

/-- A run that has a seed and a request to read prints one document and ends well just if the node
in effect answers the request; the document is that of the response, in the layout in effect. Every
other run prints nothing and fails. -/
theorem run_prints_answer (s : Surroundings) {a : Arguments} {text : Text} {seed : Nat}
    (ha : Arguments.parse s.arguments = .ok a) (hl : a.list = false)
    (ht : s.requestSource a = .ok text) (hs : seedInEffect a s.fileSettings? = some seed) :
    let answers := Answers (nodeTypeInEffect a s.fileSettings?) (UInt64.ofNat seed) text
    let result := run s
    seed < UInt64.size ∧
    ((result.ending.status = 0 ∧ ∃ document r, Response.record.shape.parse document = .ok r ∧
        result.output = document ++ ['\n']) ↔ ∃ r, answers r) ∧
    (∀ r, answers r → result.ending.status = 0 ∧
      ∃ document, result.output = document ++ ['\n'] ∧
      r.IsDocument (prettyInEffect a s.fileSettings?) document) ∧
    ((¬∃ r, answers r) → result.output = [] ∧ result.ending.status ≠ 0) := by
  intro answers result
  have hprints (r : Response) (hr : answers r) : result.ending.status = 0 ∧
      ∃ document, result.output = document ++ ['\n'] ∧
        r.IsDocument (prettyInEffect a s.fileSettings?) document := by
    obtain ⟨he, hd⟩ := run_of_answers ha hl ht hs hr
    exact ⟨congrArg Ending.status he, hd⟩
  have hfails (hn : ¬∃ r, answers r) : result.output = [] ∧ result.ending.status ≠ 0 := by
    obtain ⟨⟨f, he⟩, ho⟩ := run_of_not_answers ha hl ht hs hn
    refine ⟨ho, ?_⟩
    rw [show result.ending = .failed f from he]
    exact Nat.one_ne_zero
  refine ⟨fits_seedInEffect ha seed hs, ?_, hprints, hfails⟩
  constructor
  · rintro ⟨he, -⟩
    by_contra hn
    exact (hfails hn).2 he
  · rintro ⟨r, hr⟩
    obtain ⟨he, document, ho, hd⟩ := hprints r hr
    exact ⟨he, document, r, hd.parse_eq, ho⟩

/-- The seed comes from the file, the node type from the arguments against the file, and the layout
from a flag. -/
theorem run_prints_answer_overridden :
    let s : Surroundings := {
      arguments := ["--node=prompt_chain_simple".toList, "--pretty".toList]
      input := .ok "\x7b\"text\": \"red\\nblue, a dog\"\x7d".toList
      file _ := .error .missing
      config.content := some "seed = 7\nnode_type = \"prompt_chain\"\n".toList }
    let r : Response :=
      ⟨"red, a dog".toList, "red, a dog".toList, [], "red, a dog".toList⟩
    ∃ a text, Arguments.parse s.arguments = .ok a ∧ a.list = false ∧
      s.requestSource a = .ok text ∧ seedInEffect a s.fileSettings? = some 7 ∧
      Answers "prompt_chain_simple".toList 7 text r ∧ (run s).ending.status = 0 ∧
      ∃ document, (run s).output = document ++ ['\n'] ∧ r.IsDocument true document := by
  intro s r
  let a : Arguments := { nodeType := some "prompt_chain_simple".toList, pretty := true }
  let text : Text := "\x7b\"text\": \"red\\nblue, a dog\"\x7d".toList
  have ha : Arguments.parse s.arguments = .ok a := Json.mem_toOption_iff.1 (by decide +kernel)
  have hs : seedInEffect a s.fileSettings? = some 7 := by decide +kernel
  have hr : Answers "prompt_chain_simple".toList 7 text r := by
    have h : ∃ request ∈ (Request.shape.parse text).toOption,
        r ∈ ((Registry.builtin.evaluate "prompt_chain_simple".toList request).run
          (Seeded.ofSeed 7)).value.toOption := by
      decide +kernel
    obtain ⟨request, hp, hv⟩ := h
    exact ⟨request, Json.mem_toOption_iff.1 hp, Json.mem_toOption_iff.1 hv⟩
  obtain ⟨-, -, hprinted, -⟩ := run_prints_answer s ha rfl rfl hs
  exact ⟨a, text, ha, rfl, rfl, hs, hr, hprinted r hr⟩

end Command

end PromptWeave
