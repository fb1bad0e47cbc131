import BidFleet.Json.Writer
import BidFleet.Text.Quoted
import BidFleet.Text.Utf8

/-!
Why a text is no JSON, or not the JSON that is wanted. A fault holds its cause
and the number of octets left when it was found; together with the whole input
these give the line and the column. A fault inside a field of a record also
holds the way to it.
-/

namespace BidFleet.Json

/-- What stands where something else is wanted. -/
inductive Found where
  | null
  | bool (b : Bool)
  | number (n : Number)
  | string (s : String)
  | sequence
  | map

namespace Found

def text : Found → String
  | null => "null"
  | bool b => "boolean `" ++ (if b then "true" else "false") ++ "`"
  | number (.int n) => "integer `" ++ String.ofList (Text.integer n) ++ "`"
  | number (.float x) => "floating point `" ++ String.ofList (Number.float x).write ++ "`"
  | string s => "string " ++ Text.quoted s
  | sequence => "sequence"
  | map => "map"

end Found

inductive Cause where
  | endOfValue
  | endOfString
  | endOfList
  | endOfObject
  | colonWanted
  | commaOrListEndWanted
  | commaOrObjectEndWanted
  | wordWanted
  | valueWanted
  | keyWanted
  | invalidEscape
  | invalidNumber
  | numberOutOfRange
  | invalidCharacter
  | controlCharacter
  | loneSurrogate
  | unfinishedEscape
  | trailingComma
  | trailingCharacters
  | tooDeep
  | missingField (name : String)
  | duplicateField (name : String)
  | wrongType (found : Found) (wanted : String)
  | wrongValue (found : Found) (wanted : String)
  | wrongLength (length : Nat) (wanted : String)

namespace Cause

def text : Cause → String
  | endOfValue => "EOF while parsing a value"
  | endOfString => "EOF while parsing a string"
  | endOfList => "EOF while parsing a list"
  | endOfObject => "EOF while parsing an object"
  | colonWanted => "expected `:`"
  | commaOrListEndWanted => "expected `,` or `]`"
  | commaOrObjectEndWanted => "expected `,` or `\x7d`"
  | wordWanted => "expected ident"
  | valueWanted => "expected value"
  | keyWanted => "key must be a string"
  | invalidEscape => "invalid escape"
  | invalidNumber => "invalid number"
  | numberOutOfRange => "number out of range"
  | invalidCharacter => "invalid unicode code point"
  | controlCharacter => "control character (\\u0000-\\u001F) found while parsing a string"
  | loneSurrogate => "lone leading surrogate in hex escape"
  | unfinishedEscape => "unexpected end of hex escape"
  | trailingComma => "trailing comma"
  | trailingCharacters => "trailing characters"
  | tooDeep => "recursion limit exceeded"
  | missingField name => "missing field `" ++ name ++ "`"
  | duplicateField name => "duplicate field `" ++ name ++ "`"
  | wrongType found wanted => "invalid type: " ++ found.text ++ ", expected " ++ wanted
  | wrongValue found wanted => "invalid value: " ++ found.text ++ ", expected " ++ wanted
  | wrongLength length wanted =>
    "invalid length " ++ String.ofList (Text.natural length) ++ ", expected " ++ wanted

/-- Whether the text is JSON, though not of the wanted form. -/
def ofForm : Cause → Bool
  | missingField _ | duplicateField _ | wrongType _ _ | wrongValue _ _ | wrongLength _ _ => true
  | _ => false

end Cause

/-- A cause, the number of octets left where it was found, and the fields on the
way to it. -/
structure Fault where
  cause : Cause
  left : Nat
  path : List String := []

namespace Fault

/-- The octets of a line before the place where `count` octets have been read. -/
def column (input : Bytes) (count : Nat) : Nat :=
  ((input.take count).reverse.takeWhile (· != 10)).length

/-- The number of lines begun when `count` octets have been read. -/
def line (input : Bytes) (count : Nat) : Nat := (input.take count).count 10 + 1

def report (fault : Fault) (input : Bytes) : String :=
  let count := input.length - fault.left
  fault.cause.text ++ " at line " ++ String.ofList (Text.natural (line input count)) ++
    " column " ++ String.ofList (Text.natural (column input count))

/-- The way to the fault, before its report. -/
def located (fault : Fault) (input : Bytes) : String :=
  match fault.path with
  | [] => fault.report input
  | path => ".".intercalate path ++ ": " ++ fault.report input

end Fault

/-- Reads a part of the input and gives what follows it. -/
abbrev Reader (α : Type) := Bytes → Except Fault (α × Bytes)

/-- A fault at the octets read so far. -/
def failAt {α : Type} (cause : Cause) (rest : Bytes) : Except Fault α :=
  .error ⟨cause, rest.length, []⟩

/-- A fault at the next octet, or at the end when there is none. -/
def failNext {α : Type} (cause : Cause) (rest : Bytes) : Except Fault α := failAt cause rest.tail

/-- The input without the blanks at its front. -/
def skipBlanks (bytes : Bytes) : Bytes :=
  bytes.dropWhile (fun b => b == 32 || b == 10 || b == 9 || b == 13)

end BidFleet.Json
