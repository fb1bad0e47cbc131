/-!
Punycode: words of any characters written with letters, digits and hyphens. The
plain characters of a word come first. Each other one is then put in by a step
of a counter that runs through all places of the word so far, for one code point
after another; what is written are the lengths of the steps, as numbers whose
digits end by falling below a threshold.
-/

namespace BidFleet.Http.Punycode

/-- A digit to the base 36: the letters, then the numerals. -/
def digitChar (d : Nat) : Char := Char.ofNat (if d < 26 then 97 + d else 22 + d)

def digitValue? (c : Char) : Option Nat :=
  if c.isLower then some (c.toNat - 97)
  else if c.isUpper then some (c.toNat - 65)
  else if c.isDigit then some (c.toNat - 22)
  else none

/-- The bound below which the digit at a place is the last one. Places count in
steps of 36. -/
def threshold (bias place : Nat) : Nat := max 1 (min 26 (place - bias))

def writeNumber (bias place n : Nat) : List Char :=
  if n < threshold bias place then [digitChar n]
  else
    digitChar (threshold bias place +
      (n - threshold bias place) % (36 - threshold bias place)) ::
      writeNumber bias (place + 36) ((n - threshold bias place) / (36 - threshold bias place))
termination_by n
decreasing_by
  have positive : 1 ≤ threshold bias place := Nat.le_max_left _ _
  exact Nat.lt_of_le_of_lt (Nat.div_le_self _ _) (by omega)

/-- Divides a step down until it is small, and counts the divisions. -/
def shrink (step : Nat) : Nat × Nat :=
  if step > 455 then
    let (small, count) := shrink (step / 35)
    (small, count + 1)
  else (step, 0)
termination_by step
decreasing_by omega

/-- The bias for the step after one that made a word of `size` characters. -/
def nextBias (step size : Nat) (first : Bool) : Nat :=
  let damped := if first then step / 700 else step / 2
  let (small, count) := shrink (damped + damped / size)
  36 * count + 36 * small / (small + 38)

def isPlain (c : Char) : Bool := c.toNat < 128

/-- Where the counter stands: the code point, the place, and the number of
characters of the word so far. -/
structure Counter where
  code : Nat := 128
  place : Nat := 0
  size : Nat

/-- The places of a word that are not plain, each with its code point, by code
point and then by place. -/
def marks (word : List Char) : List (Nat × Nat) :=
  ((word.map Char.toNat).zipIdx.filter (fun mark => 128 ≤ mark.1)).mergeSort
    (fun a b => a.1 < b.1 || (a.1 == b.1 && a.2 ≤ b.2))

/-- How many characters stand in front of a mark when it is put in. -/
def standing (word : List Char) (mark : Nat × Nat) : Nat :=
  ((word.take mark.2).filter (fun c => c.toNat ≤ mark.1)).length

/-- The steps of the counter from mark to mark, as digits. -/
def writeMarks (word : List Char) (bias : Nat) (counter : Counter) :
    List (Nat × Nat) → List Char
  | [] => []
  | mark :: rest =>
    let place := standing word mark
    let step := (mark.1 - counter.code) * (counter.size + 1) + place - counter.place
    let first := counter.code == 128 && counter.place == 0
    writeNumber bias 36 step ++
      writeMarks word (nextBias step (counter.size + 1) first)
        ⟨mark.1, place + 1, counter.size + 1⟩ rest

def encode (word : List Char) : List Char :=
  let plain := word.filter isPlain
  let digits := writeMarks word 72 { size := plain.length } (marks word)
  if plain.isEmpty then digits else plain ++ '-' :: digits

/-- The number at the front of a list of digits, and what follows it. The weight of
a digit fits 32 bits. -/
def readNumber? (bias place weight : Nat) : List Char → Option (Nat × List Char)
  | [] => none
  | c :: cs =>
    match digitValue? c with
    | none => none
    | some d =>
      if d < threshold bias place then some (d * weight, cs)
      else if weight * (36 - threshold bias place) ≥ UInt32.size then none
      else
        (readNumber? bias (place + 36) (weight * (36 - threshold bias place)) cs).map
          (fun (n, rest) => (d * weight + n, rest))

theorem readNumber?_length {bias place weight : Nat} {text : List Char} {n : Nat}
    {rest : List Char} (h : readNumber? bias place weight text = some (n, rest)) :
    rest.length < text.length := by
  induction text generalizing place weight n with
  | nil => simp [readNumber?] at h
  | cons c cs ih =>
    simp only [readNumber?] at h
    split at h
    · simp at h
    · split at h
      · simp only [Option.some.injEq, Prod.mk.injEq] at h
        simp [h.2]
      split at h
      · simp at h
      · obtain ⟨⟨m, r⟩, found, same⟩ := Option.map_eq_some_iff.1 h
        simp only [Prod.mk.injEq] at same
        have shorter := ih (same.2 ▸ found)
        simp only [List.length_cons]
        omega

/-- Puts characters into a word as the digits say. -/
def readMarks? (bias : Nat) (counter : Counter) (word : List Char) (text : List Char) :
    Option (List Char) :=
  if text.isEmpty then some word
  else
    match _read : readNumber? bias 36 1 text with
    | none => none
    | some (step, rest) =>
      let size := counter.size + 1
      let code := counter.code + (counter.place + step) / size
      let place := (counter.place + step) % size
      let first := counter.code == 128 && counter.place == 0
      if code.isValidChar then
        readMarks? (nextBias step size first) ⟨code, place + 1, size⟩
          (word.take place ++ Char.ofNat code :: word.drop place) rest
      else none
termination_by text.length
decreasing_by exact readNumber?_length _read

/-- The word that a text stands for. A hyphen sets the plain characters off, and
only when there are some. -/
def decode? (text : List Char) : Option (List Char) :=
  let digits := (text.reverse.takeWhile (· != '-')).reverse
  match text.take (text.length - digits.length) with
  | [] => readMarks? 72 { size := 0 } [] digits
  | [_] => none
  | front =>
    if front.all isPlain then
      readMarks? 72 { size := front.length - 1 } front.dropLast digits
    else none

end BidFleet.Http.Punycode
