import PromptWeave.Proofs.Text.Pieces
import PromptWeave.Tags.Basic

/-! Sequences whose tags can stand between commas.

Writing such a sequence and reading the text again gives the sequence back (`parse_join`), and the
text has no blanks at its ends (`trim_join`), so that trimming it on the way changes nothing. -/

namespace PromptWeave

namespace Tags

/-- All tags of a sequence can stand between commas. -/
def Normal (tags : Tags) : Prop :=
  ∀ t ∈ tags.toList, Text.IsPiece ',' t

theorem normal_empty : empty.Normal := nofun

theorem normal_parse (s : Text) : (parse s).Normal :=
  fun _ => Text.isPiece_of_mem_trimmedPieces

theorem Normal.append {a b : Tags} (ha : a.Normal) (hb : b.Normal) : (a ++ b).Normal :=
  fun t ht => (List.mem_append.1 ht).elim (ha t) (hb t)

/-- All tags of a sequence are trimmed, and none is empty. -/
def Clean (tags : Tags) : Prop :=
  ∀ t ∈ tags.toList, t ≠ [] ∧ Text.Trimmed t

theorem clean_ofList (ts : List Text) : (ofList ts).Clean := by
  intro t ht
  obtain ⟨hm, hn⟩ := List.mem_filter.1 ht
  obtain ⟨u, -, rfl⟩ := List.mem_map.1 hm
  exact ⟨of_decide_eq_true hn, Text.trimmed_trim u⟩

/-- The tags of a clean sequence may be trimmed again, as they are where a sequence is made from
them. -/
theorem ofList_toList {tags : Tags} (h : tags.Clean) : ofList tags.toList = tags := by
  obtain ⟨ts⟩ := tags
  have hm : ts.map Text.trim = ts :=
    (List.map_congr_left fun t ht => (h t ht).2.trim_eq).trans (List.map_id ts)
  have hf : ts.filter (· ≠ []) = ts :=
    List.filter_eq_self.2 fun t ht => decide_eq_true (h t ht).1
  rw [ofList, hm, hf]

/-! ## Writing and reading -/

theorem intercalate_cons_cons (t u : Text) (ts : List Text) :
    separator.intercalate (t :: u :: ts) = t ++ ',' :: ' ' :: separator.intercalate (u :: ts) := by
  rw [List.intercalate_cons_cons, List.append_assoc]
  rfl

/-- The tags of a written sequence are those of the written tags. -/
theorem trimmedPieces_join (ts : List Text) :
    Text.trimmedPieces ',' (separator.intercalate ts) = ts.flatMap (Text.trimmedPieces ',') :=
  Text.trimmedPieces_intercalate (by decide) [] [' '] nofun Text.blank_space ts

theorem parse_join {tags : Tags} (h : tags.Normal) : parse tags.join = tags := by
  have hp : ∀ ts : List Text, (∀ t ∈ ts, Text.IsPiece ',' t) →
      ts.flatMap (Text.trimmedPieces ',') = ts := by
    intro ts ht
    induction ts with
    | nil => rfl
    | cons t ts ih =>
      have h := ht t List.mem_cons_self
      rw [List.flatMap_cons, Text.trimmedPieces_of_not_mem h.not_mem h.trimmed h.ne_nil,
        ih fun u hu => ht u (List.mem_cons_of_mem _ hu), List.singleton_append]
  rw [parse, join, trimmedPieces_join, hp _ h]

theorem trimmed_intercalate {ts : List Text} (h : ∀ t ∈ ts, Text.IsPiece ',' t) :
    Text.Trimmed (separator.intercalate ts) ∧ (separator.intercalate ts = [] ↔ ts = []) := by
  induction ts with
  | nil => exact ⟨⟨nofun, nofun⟩, by simp⟩
  | cons t ts ih =>
    have ht := h t List.mem_cons_self
    cases ts with
    | nil => simpa using ⟨ht.trimmed, ht.ne_nil⟩
    | cons u ts =>
      obtain ⟨hr, hn⟩ := ih fun v hv => h v (List.mem_cons_of_mem _ hv)
      rw [intercalate_cons_cons]
      exact ⟨ht.trimmed.append hr ht.ne_nil (by simp [hn]) [',', ' '], by simp⟩

theorem trim_join {tags : Tags} (h : tags.Normal) : Text.trim tags.join = tags.join :=
  (trimmed_intercalate h).1.trim_eq

theorem join_eq_nil_iff {tags : Tags} (h : tags.Normal) : tags.join = [] ↔ tags = empty := by
  obtain ⟨ts⟩ := tags
  simpa [join, empty] using (trimmed_intercalate h).2

end Tags

end PromptWeave
