import PromptWeave.Command.Run
import PromptWeave.Proofs.Json.Literal

/-! The settings in effect.

Each setting has a rule of its own for the file and the arguments (`settings_eq`). Either way, a
seed is a number of 64 bits (`fits_seedInEffect`). -/

namespace PromptWeave

namespace Command
open Json (exists_of_bind_eq_ok)

/-! ## Rules -/

/-- The settings in the configuration file, if it can be read as one. -/
def Surroundings.fileSettings? (s : Surroundings) : Option Settings :=
  s.config.content.bind Settings.parse?

/-- The seed of the arguments, or else the one in the file. -/
def seedInEffect (a : Arguments) (file? : Option Settings) : Option Nat :=
  a.seed <|> file?.bind Settings.seed

/-- The node type of the arguments, or else the one in the file, or else the chain node. -/
def nodeTypeInEffect (a : Arguments) (file? : Option Settings) : Text :=
  (a.nodeType <|> file?.map Settings.nodeType).getD "prompt_chain".toList

/-- Responses are printed with an item on each line if the arguments or the file say so. -/
def prettyInEffect (a : Arguments) (file? : Option Settings) : Bool :=
  a.pretty || file?.any Settings.pretty

theorem settings_eq (s : Surroundings) (a : Arguments) :
    settings s a = {
      seed := seedInEffect a s.fileSettings?
      nodeType := nodeTypeInEffect a s.fileSettings?
      pretty := prettyInEffect a s.fileSettings? } := by
  have hf : (s.config.content.map Settings.ofText).getD {} = s.fileSettings?.getD {} := by
    unfold Surroundings.fileSettings?
    cases s.config.content <;> rfl
  rw [settings, hf, Settings.withArguments, Bool.or_comm]
  cases s.fileSettings? with
  | none => cases ha : a.nodeType <;> simp [seedInEffect, nodeTypeInEffect, prettyInEffect, ha]
  | some file => cases ha : a.nodeType <;> simp [seedInEffect, nodeTypeInEffect, prettyInEffect, ha]

/-! ## Seeds -/

/-- The seed is a number of 64 bits, if there is one. -/
def Fits (seed : Option Nat) : Prop :=
  ∀ n ∈ seed, n < UInt64.size

theorem fits_none : Fits none :=
  nofun

theorem fits_seed? (word : Text) : Fits (seed? word) := by
  intro n hn
  obtain ⟨digits, -, hn⟩ := Option.bind_eq_some_iff.1 hn
  dsimp only at hn
  split at hn
  · rename_i h
    cases hn
    exact h.2
  · cases hn

section
variable {a b : Arguments} {p q : Progress}

theorem Arguments.fits_take {which : Valued} {value : Text} (h : a.take which value = .ok b)
    (ha : Fits a.seed) : Fits b.seed := by
  cases which with
  | seed =>
    rw [take] at h
    split at h
    · cases h
    split at h
    · rename_i n hn
      cases h
      exact hn ▸ fits_seed? value
    · cases h
  | node | path =>
    rw [take] at h
    split at h <;> cases h
    exact ha

theorem Arguments.fits_raise {flag : Flag} (h : a.raise flag = .ok b) (ha : Fits a.seed) :
    Fits b.seed := by
  cases flag with
  | help => cases h
  | pretty | list | saveConfig =>
    rw [raise] at h
    split at h <;> cases h
    exact ha

theorem Progress.fits_settle (h : p.settle = .ok a) (hp : Fits p.taken.seed) : Fits a.seed := by
  unfold settle at h
  split at h
  · cases h
    exact hp
  · exact Arguments.fits_take h hp
  · cases h

theorem Progress.fits_path {word : Text} (h : p.path word = .ok q) (hp : Fits p.taken.seed) :
    Fits q.taken.seed := by
  unfold path at h
  split at h
  · cases h
  obtain ⟨taken, ht, h⟩ := exists_of_bind_eq_ok h
  cases h
  exact fits_settle ht hp

theorem Progress.fits_plain {word : Text} (h : p.plain word = .ok q) (hp : Fits p.taken.seed) :
    Fits q.taken.seed := by
  unfold plain at h
  split at h
  · cases h
    exact hp
  · exact fits_path h hp

theorem Progress.fits_long {name : Text} {value? : Option Text} (h : p.long name value? = .ok q)
    (hp : Fits p.taken.seed) : Fits q.taken.seed := by
  unfold long at h
  split at h
  · obtain ⟨settled, hs, h⟩ := exists_of_bind_eq_ok h
    obtain ⟨taken, ht, h⟩ := exists_of_bind_eq_ok h
    cases h
    exact Arguments.fits_take ht (fits_settle hs hp)
  · obtain ⟨taken, ht, h⟩ := exists_of_bind_eq_ok h
    cases h
    exact fits_settle ht hp
  · obtain ⟨settled, hs, h⟩ := exists_of_bind_eq_ok h
    obtain ⟨taken, ht, h⟩ := exists_of_bind_eq_ok h
    cases h
    exact Arguments.fits_raise ht (fits_settle hs hp)
  · cases h
  · cases h

theorem Progress.short_ne_ok {letters : Text} : p.short letters ≠ .ok q := by
  intro h
  unfold short at h
  split at h
  · obtain ⟨_, _, h⟩ := exists_of_bind_eq_ok h
    cases h
  · cases h

theorem Progress.fits_next {word : Text} (h : p.next word = .ok q) (hp : Fits p.taken.seed) :
    Fits q.taken.seed := by
  unfold next at h
  split at h
  · exact fits_path h hp
  split at h
  · cases h
    exact hp
  · split at h <;> exact fits_long h hp
  · exact absurd h short_ne_ok
  · exact fits_plain h hp

theorem Progress.fits_foldlM {words : List Text} (h : words.foldlM next p = .ok q)
    (hp : Fits p.taken.seed) : Fits q.taken.seed := by
  induction words generalizing p with
  | nil =>
    cases h
    exact hp
  | cons word words ih =>
    rw [List.foldlM_cons] at h
    obtain ⟨p', hn, h⟩ := exists_of_bind_eq_ok h
    exact ih h (fits_next hn hp)

end

theorem Arguments.fits_parse {words : List Text} {a : Arguments} (h : parse words = .ok a) :
    Fits a.seed := by
  obtain ⟨p, hp, h⟩ := exists_of_bind_eq_ok h
  exact Progress.fits_settle h (Progress.fits_foldlM hp fits_none)

theorem Settings.fits_ofEntries? {entries : Toml.Entries} {file : Settings}
    (h : ofEntries? entries = some file) : Fits file.seed := by
  unfold ofEntries? at h
  extract_lets standard withSeed at h
  -- A seed that has been read stays while the other settings are read.
  have hs {seed : Option Nat} (h : withSeed seed = some file) : file.seed = seed := by
    unfold withSeed at h
    extract_lets withNodeType at h
    have hn {nodeType : Text} (h : withNodeType nodeType = some file) : file.seed = seed := by
      unfold withNodeType at h
      split at h <;> cases h <;> rfl
    split at h
    · exact hn h
    · exact hn h
    · cases h
  split at h
  · rw [hs h]
    exact fits_none
  · split at h
    · rename_i hn
      rw [hs h]
      rintro _ ⟨⟩
      exact (Int.toNat_lt hn.1).2 hn.2
    · cases h
  · cases h

/-- The generator of a run can be made from the seed as it is given. -/
theorem fits_seedInEffect {s : Surroundings} {a : Arguments}
    (ha : Arguments.parse s.arguments = .ok a) : Fits (seedInEffect a s.fileSettings?) := by
  unfold seedInEffect
  cases hseed : a.seed with
  | some n =>
    have h := Arguments.fits_parse ha
    rwa [hseed] at h
  | none =>
    intro n hn
    obtain ⟨file, hfile, hn⟩ := Option.bind_eq_some_iff.1 hn
    obtain ⟨text, -, htext⟩ := Option.bind_eq_some_iff.1 hfile
    obtain ⟨entries, -, hentries⟩ := Option.bind_eq_some_iff.1 htext
    exact Settings.fits_ofEntries? hentries n hn

end Command

end PromptWeave
