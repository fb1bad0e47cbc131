import BidFleet.Text.Segments

/-!
Media types. A content type names a type and a subtype, both made of token
characters, and may add parameters. The last plus sign of the subtype sets off
the syntax that it builds on.
-/

namespace BidFleet.Http

structure MediaType where
  main : List Char
  sub : List Char
  /-- What stands behind the last plus sign of the subtype. -/
  base : Option (List Char)
  deriving DecidableEq, Repr

namespace MediaType

def isToken (c : Char) : Bool := c.isAlphanum || "!#$%&'*+-.^_`|~".toList.contains c

/-- The characters of a quoted parameter. -/
def isQuotable (c : Char) : Bool := 32 ≤ c.toNat && c.toNat != 127

/-- What follows a quoted parameter value, from behind its opening quote; a quote
right there belongs to the value. -/
def skipQuoted? : Bool → List Char → Option (List Char)
  | _, [] => none
  | first, c :: cs =>
    if c = '"' ∧ !first then some cs
    else if isQuotable c then skipQuoted? false cs
    else none

/-- What follows the value of a parameter and its semicolon. -/
def skipValue? (value : List Char) : Option (List Char) :=
  match value with
  | '"' :: quoted =>
    match skipQuoted? true quoted with
    | some rest =>
      match rest.dropWhile (· == ' ') with
      | [] => some []
      | ';' :: next => some next
      | _ => none
    | none => none
  | _ =>
    match value.dropWhile isToken with
    | [] => some []
    | ';' :: next => if (value.takeWhile isToken).isEmpty then none else some next
    | _ => none

/-- Whether a text is a list of parameters, of which `fuel` are looked at. -/
def parameters : Nat → List Char → Bool
  | 0, text => text.isEmpty
  | fuel + 1, text =>
    match text.dropWhile (· == ' ') with
    | [] => true
    | named =>
      if (named.takeWhile isToken).isEmpty then false
      else
        match named.dropWhile isToken with
        | '=' :: value =>
          match skipValue? value with
          | some rest => parameters fuel rest
          | none => false
        | _ => false

/-- A subtype, cut at its last plus sign when something stands before that. -/
def cutBase (sub : List Char) : List Char × Option (List Char) :=
  let base := (sub.reverse.takeWhile (· != '+')).reverse
  let front := sub.take (sub.length - base.length - 1)
  if base.length < sub.length ∧ !front.isEmpty then (front, some base) else (sub, none)

/-- Reads a media type; its names are compared in lower case. -/
def parse? (text : List Char) : Option MediaType :=
  let text := text.map Char.toLower
  let main := text.takeWhile isToken
  match text.dropWhile isToken with
  | '/' :: rest =>
    if main.isEmpty then none
    else
      let sub := rest.takeWhile isToken
      let (front, base) := cutBase sub
      match rest.dropWhile isToken with
      | [] => some ⟨main, front, base⟩
      | ';' :: more =>
        if !sub.isEmpty ∧ parameters (more.length + 1) more then some ⟨main, front, base⟩
        else none
      | _ => none
  | _ => none

/-- Whether a text keeps to the blank, the tab and the visible characters of ASCII. -/
def isVisible (text : List Char) : Bool :=
  text.all (fun c => c = '\t' || (32 ≤ c.toNat && c.toNat < 127))

/-- Whether a content type says that the content is JSON. -/
def isJson (contentType : String) : Bool :=
  isVisible contentType.toList &&
  match parse? contentType.toList with
  | some m => m.main = "application".toList &&
      (m.sub = "json".toList || m.base = some "json".toList)
  | none => false

end MediaType

end BidFleet.Http
