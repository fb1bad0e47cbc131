import BidFleet.Json.Value
import BidFleet.Text.Segments
import BidFleet.Text.Integer

/-!
JSON pointers. A pointer is empty, or a `/` before each of its tokens; a token
names a member of an object or the place of an item in an array. In a token `~1`
stands for `/` and `~0` for `~`.
-/

namespace BidFleet.Json

namespace Pointer

/-- The name that a token stands for. -/
def unescape : List Char → List Char
  | '~' :: '1' :: rest => '/' :: unescape rest
  | '~' :: '0' :: rest => '~' :: unescape rest
  | c :: rest => c :: unescape rest
  | [] => []

/-- The place that a token names in an array: digits, without a zero in front. -/
def place? (token : List Char) : Option Nat :=
  match token with
  | [] => none
  | '+' :: _ => none
  | '0' :: _ :: _ => none
  | _ =>
    match Text.readNatural (UInt64.size - 1) token with
    | .ok n => some n
    | .error _ => none

/-- The tokens of a pointer; `none` when the text is no pointer. -/
def tokens? (pointer : String) : Option (List (List Char)) :=
  match pointer.toList with
  | [] => some []
  | '/' :: rest => some ((Text.split '/' rest).map unescape)
  | _ => none

end Pointer

namespace Value

def step? (value : Value) (token : List Char) : Option Value :=
  match value with
  | object _ => value.get? (String.ofList token)
  | array items => (Pointer.place? token).bind (fun n => items[n]?)
  | _ => none

def follow? (value : Value) : List (List Char) → Option Value
  | [] => some value
  | token :: tokens =>
    match value.step? token with
    | some next => next.follow? tokens
    | none => none

def pointer? (value : Value) (pointer : String) : Option Value :=
  (Pointer.tokens? pointer).bind value.follow?

end Value

end BidFleet.Json
