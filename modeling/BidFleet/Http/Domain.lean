import BidFleet.Http.Domain.Composition
import BidFleet.Http.Domain.Direction
import BidFleet.Http.Domain.Joining
import BidFleet.Http.Domain.Mapping
import BidFleet.Http.Punycode

/-!
Domain names in any characters, and the plain form that they are looked up by. A
name is mapped, composed and cut into labels; a label of other characters is
written as a coded one, and a coded label has to stand for a word that could
have been written out. `plain?` gives the plain form of a name that is one.
-/

namespace BidFleet.Http.Domain

/-- The characters that set a host apart from what stands around it. -/
def isDelimiter (c : Char) : Bool := " #/:<>?@[\\]^|".toList.contains c

/-- Whether a character may not stand in a domain: a control, a delimiter, or the
sign of an escape. -/
def isForbidden (c : Char) : Bool :=
  c.toNat < 32 || c.toNat == 127 || c = '%' || isDelimiter c

/-- A label: the word that it stands for and its plain form. -/
structure Label where
  word : List Char
  plain : List Char
  deriving DecidableEq, Repr

/-- The start of a label that stands for a word of other characters. -/
def codedStart : List Char := "xn--".toList

def longestWord : Nat := 1000

def longestCode : Nat := 2000

/-- The label that a word stands for as it is, or coded. -/
def ofWord? (word : List Char) : Option Label :=
  if word.all Punycode.isPlain then some ⟨word, word⟩
  else if word.length ≤ longestWord then some ⟨word, codedStart ++ Punycode.encode word⟩
  else none

/-- The label of a code. The word behind it needs to be coded, and is in its mapped
and composed form. -/
def ofCode? (code : List Char) : Option Label :=
  if code.all Punycode.isPlain && code.length ≤ longestCode then
    match Punycode.decode? code with
    | some word =>
      if !word.all Punycode.isPlain && word.all stays && composed word == word then
        some ⟨word, codedStart ++ code⟩
      else none
    | none => none
  else none

def Label.read? (text : List Char) : Option Label :=
  if text.any isForbidden then none
  else
    match Text.stripStart? codedStart text with
    | some code => ofCode? code
    | none => ofWord? text

/-- Whether the word of a label may be one: it does not start with a mark, and its
joiners have something to join. -/
def Label.fits (label : Label) : Bool :=
  !label.word.head?.any isMark && joinersFit [] label.word

def readLabels? (name : List Char) : Option (List Label) :=
  match mapAll? name with
  | some mapped => (Text.split '.' (composed mapped)).mapM Label.read?
  | none => none

/-- Whether labels may stand together in a name. -/
def fitTogether (labels : List Label) : Bool :=
  labels.all Label.fits &&
    (!labels.any (fun l => l.word.any turns) || labels.all (fun l => keepsDirection l.word))

def plain? (name : List Char) : Option (List Char) :=
  match readLabels? name with
  | some labels =>
    if fitTogether labels then some (Text.join '.' (labels.map Label.plain)) else none
  | none => none

end BidFleet.Http.Domain
