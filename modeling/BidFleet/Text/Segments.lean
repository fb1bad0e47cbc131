/-!
Cutting texts apart. Targets, paths and command words are lists of characters;
the functions here find a word in them, take off what stands in front or at the
end, and split them at a separator.
-/

namespace BidFleet.Text

/-- The part of a text before the first `sep`, or all of it. -/
def before (sep : Char) (text : List Char) : List Char := text.takeWhile (· != sep)

/-- The part of a text after the first `sep`; `none` when there is none. -/
def after? (sep : Char) (text : List Char) : Option (List Char) :=
  match text.dropWhile (· != sep) with
  | [] => none
  | _ :: rest => some rest

/-- What follows `word` in a text that starts with it. -/
def stripStart? (word text : List Char) : Option (List Char) := word.isPrefixOf? text

/-- What follows the first occurrence of `word` in a text. -/
def afterWord? (word : List Char) : List Char → Option (List Char)
  | [] => stripStart? word []
  | c :: cs =>
    match stripStart? word (c :: cs) with
    | some rest => some rest
    | none => afterWord? word cs

def occurs (word text : List Char) : Bool := (afterWord? word text).isSome

/-- A text without the run of `c` at its end. -/
def trimEnd (c : Char) (text : List Char) : List Char :=
  (text.reverse.dropWhile (· == c)).reverse

/-- The pieces between the separators of a text: one more than there are
separators, and possibly empty. -/
def split (sep : Char) : List Char → List (List Char)
  | [] => [[]]
  | c :: cs =>
    if c = sep then [] :: split sep cs
    else
      match split sep cs with
      | [] => [[c]]
      | piece :: pieces => (c :: piece) :: pieces

/-- The pieces between the separators of a text that are not empty. -/
def segments (sep : Char) (text : List Char) : List (List Char) :=
  (split sep text).filter (fun piece => !piece.isEmpty)

/-- The pieces of a text put together again with `sep` between neighbours. -/
def join (sep : Char) : List (List Char) → List Char
  | [] => []
  | [piece] => piece
  | piece :: pieces => piece ++ sep :: join sep pieces

theorem split_ne_nil (sep : Char) (text : List Char) : split sep text ≠ [] := by
  cases text with
  | nil => simp [split]
  | cons c cs =>
    unfold split
    split
    · simp
    · split <;> simp

/-- Splitting loses nothing. -/
theorem join_split (sep : Char) (text : List Char) : join sep (split sep text) = text := by
  induction text with
  | nil => rfl
  | cons c cs ih =>
    by_cases h : c = sep
    · subst h
      simp only [split, if_true]
      cases hs : split c cs with
      | nil => exact absurd hs (split_ne_nil c cs)
      | cons piece pieces => rw [hs] at ih; simp [join, ih]
    · simp only [split, h, if_false]
      cases hs : split sep cs with
      | nil => exact absurd hs (split_ne_nil sep cs)
      | cons piece pieces =>
        rw [hs] at ih
        cases pieces with
        | nil => simpa [join] using ih
        | cons next more => simpa [join] using ih

end BidFleet.Text
