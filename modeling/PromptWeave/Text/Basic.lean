/-! Texts, cutting and joining.

A text is the list of its characters, so every operation on texts is a recursion on a list.
`Text.pieces` and `List.intercalate` are the two directions between a text and its parts:
joining the pieces at a mark with that mark gives the text back (`intercalate_pieces`). -/

namespace PromptWeave

/-- A text is the list of its characters. -/
abbrev Text := List Char

namespace Text

/-- The pieces of a text between the occurrences of `mark`, in order. There is always at least
one, and the empty text has one empty piece. -/
def pieces (mark : Char) : Text → List Text
  | [] => [[]]
  | c :: s =>
    if c = mark then [] :: pieces mark s
    else
      let rest := pieces mark s
      (c :: rest.headD []) :: rest.tail

theorem pieces_ne_nil (mark : Char) (s : Text) : pieces mark s ≠ [] := by
  cases s with
  | nil => simp [pieces]
  | cons c s => rw [pieces]; split <;> simp

/-- A mark in a text separates the pieces before it from those after it. -/
theorem pieces_append_cons (mark : Char) (s t : Text) :
    pieces mark (s ++ mark :: t) = pieces mark s ++ pieces mark t := by
  induction s with
  | nil => simp [pieces]
  | cons c s ih =>
    by_cases h : c = mark
    · simp [pieces, h, ih]
    · obtain ⟨p, ps, hp⟩ := List.exists_cons_of_ne_nil (pieces_ne_nil mark s)
      simp [pieces, h, ih, hp]

/-- Joining the pieces with the mark gives the text back. -/
theorem intercalate_pieces (mark : Char) (s : Text) : [mark].intercalate (pieces mark s) = s := by
  induction s with
  | nil => rfl
  | cons c s ih =>
    obtain ⟨p, ps, hp⟩ := List.exists_cons_of_ne_nil (pieces_ne_nil mark s)
    rw [hp] at ih
    by_cases h : c = mark
    · simp [pieces, h, hp, ih]
    · cases ps with
      | nil => simp_all [pieces, List.intercalate]
      | cons q qs =>
        rw [← ih]
        simp_all [pieces, List.intercalate]

/-- A piece does not hold the mark. -/
theorem not_mem_of_mem_pieces {mark : Char} {s p : Text} (h : p ∈ pieces mark s) :
    mark ∉ p := by
  induction s generalizing p with
  | nil => simp_all [pieces]
  | cons c s ih =>
    obtain ⟨q, qs, hq⟩ := List.exists_cons_of_ne_nil (pieces_ne_nil mark s)
    by_cases hc : c = mark
    · simp only [pieces, hc, if_true, List.mem_cons] at h
      rcases h with rfl | h
      · simp
      · exact ih h
    · simp only [pieces, hc, if_false, hq, List.headD_cons, List.tail_cons, List.mem_cons] at h
      rcases h with rfl | h
      · have hq : mark ∉ q := ih (by simp [hq])
        simp [hq, Ne.symm hc]
      · exact ih (by simp [hq, h])

/-- A text without the mark is its only piece. -/
theorem pieces_of_not_mem {mark : Char} {s : Text} (h : mark ∉ s) : pieces mark s = [s] := by
  induction s with
  | nil => rfl
  | cons c s ih =>
    simp only [List.mem_cons, not_or] at h
    simp [pieces, Ne.symm h.1, ih h.2]

/-- The texts before and after the first place where `mark` stands in a text. -/
def cut? (mark : Text) : Text → Option (Text × Text)
  | [] => if mark = [] then some ([], []) else none
  | c :: s =>
    if mark.isPrefixOf (c :: s) then some ([], (c :: s).drop mark.length)
    else (cut? mark s).map fun (before, after) => (c :: before, after)

/-- The parts of a cut, with the mark between them, make up the text. -/
theorem eq_of_cut? {mark s before after : Text} (h : cut? mark s = some (before, after)) :
    s = before ++ mark ++ after := by
  induction s generalizing before after with
  | nil =>
    simp only [cut?] at h
    split at h <;> simp_all
  | cons c s ih =>
    simp only [cut?] at h
    split at h
    · rename_i hp
      obtain ⟨t, ht⟩ := List.isPrefixOf_iff_prefix.1 hp
      simp only [Option.some.injEq, Prod.mk.injEq] at h
      obtain ⟨rfl, rfl⟩ := h
      simp [← ht]
    · obtain ⟨⟨b, a⟩, hb, he⟩ := Option.map_eq_some_iff.1 h
      simp only [Prod.mk.injEq] at he
      obtain ⟨rfl, rfl⟩ := he
      simp [ih hb]

/-- A text without the longest run of characters of a class at its end. -/
def dropEndWhile (p : Char → Bool) (s : Text) : Text :=
  (s.reverse.dropWhile p).reverse

/-- The text ends in the character `c`. -/
def endsIn (c : Char) (s : Text) : Bool :=
  s.getLast? == some c

/-- A number in decimal digits, without leading zeros. -/
def ofNat (n : Nat) : Text :=
  Nat.toDigits 10 n

/-- An integer in decimal digits, with a minus sign where it is negative. -/
def ofInt : Int → Text
  | .ofNat n => ofNat n
  | .negSucc n => '-' :: ofNat (n + 1)

/-- The value of a decimal digit. -/
def digit? (c : Char) : Option Nat :=
  if c.isDigit then some (c.toNat - '0'.toNat) else none

/-- The value of a digit in a base of at most 16, in either case. -/
def digitIn? (base : Nat) (c : Char) : Option Nat :=
  let value? : Option Nat :=
    if c.isDigit then some (c.toNat - '0'.toNat)
    else if 'a' ≤ c ∧ c ≤ 'f' then some (c.toNat - 'a'.toNat + 10)
    else if 'A' ≤ c ∧ c ≤ 'F' then some (c.toNat - 'A'.toNat + 10)
    else none
  value?.filter (· < base)

/-- The number that a row of digit values writes in a base, most significant first. -/
def valueOf (base : Nat) (digits : List Nat) : Nat :=
  digits.foldl (fun n d => n * base + d) 0

/-- A text is listed before another if it is a proper beginning of it, or has the smaller
character at the first place where they differ. -/
def before : Text → Text → Bool
  | _, [] => false
  | [], _ :: _ => true
  | a :: s, b :: t => a < b || (a == b && before s t)

end Text

end PromptWeave
