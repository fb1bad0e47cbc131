import BidFleet.Json.Reader

/-!
Reading records. A decoder reads a value of a wanted form, given the number of
arrays and objects that may still be opened. A record is read from an object
with its fields in any order, or from an array with its fields in order; fields
that it does not know are passed over. What has been read so far is a draft,
and a record is built from a finished draft.
-/

namespace BidFleet.Json

/-- Reads a value of a wanted form inside a number of further brackets. -/
abbrev Decoder (α : Type) := Nat → Reader α

/-- The fault of finding something else than the wanted form. Scalars are read
before they are refused, arrays and objects are not. -/
def refuseType {α : Type} (wanted : String) : Reader α := fun bytes =>
  match skipBlanks bytes with
  | [] => failAt .endOfValue []
  | b :: rest =>
    match Char.ofNat b.toNat with
    | '[' => failAt (.wrongType .sequence wanted) (b :: rest)
    | '{' => failAt (.wrongType .map wanted) (b :: rest)
    | _ => do
      let (value, rest) ← readValue 0 (b :: rest)
      let found : Found :=
        match value with
        | .bool b => .bool b
        | .number n => .number n
        | .string s => .string s
        | _ => .null
      failAt (.wrongType found wanted) rest

namespace Decoder

def value : Decoder Value := readValue

def text : Decoder String := fun _ bytes =>
  match skipBlanks bytes with
  | 34 :: rest => readText rest
  | rest => refuseType "a string" rest

def bool : Decoder Bool := fun _ bytes =>
  match skipBlanks bytes with
  | 116 :: rest => (readWord "rue".toList rest).map (fun rest => (true, rest))
  | 102 :: rest => (readWord "alse".toList rest).map (fun rest => (false, rest))
  | rest => refuseType "a boolean" rest

/-- A number that `convert` takes. -/
def number {α : Type} (wanted : String) (convert : Number → Except Cause α) : Decoder α :=
  fun _ bytes =>
  match skipBlanks bytes with
  | [] => failAt .endOfValue []
  | b :: rest =>
    if b = 45 ∨ isDigit b then do
      let (n, rest) ← readNumber (b :: rest)
      match convert n with
      | .ok a => .ok (a, rest)
      | .error cause => failAt cause rest
    else refuseType wanted (b :: rest)

def float : Decoder Float := number "f64" (fun n => .ok n.toFloat)

def integer (wanted : String) (low high : Int) : Decoder Int :=
  number wanted (fun n =>
    match n with
    | .int i => if low ≤ i ∧ i ≤ high then .ok i else .error (.wrongValue (.number n) wanted)
    | .float _ => .error (.wrongType (.number n) wanted))

def map {α β : Type} (f : α → β) (decoder : Decoder α) : Decoder β := fun depth bytes =>
  (decoder depth bytes).map (fun (a, rest) => (f a, rest))

def uint8 : Decoder UInt8 := (integer "u8" 0 255).map (fun i => UInt8.ofNat i.toNat)

def uint64 : Decoder UInt64 :=
  (integer "u64" 0 (UInt64.size - 1)).map (fun i => UInt64.ofNat i.toNat)

def int64 : Decoder Int64 :=
  (integer "i64" (-9223372036854775808) 9223372036854775807).map Int64.ofInt

/-- `null`, or a value of the form. -/
def optional {α : Type} (decoder : Decoder α) : Decoder (Option α) := fun depth bytes =>
  match skipBlanks bytes with
  | 110 :: rest => (readWord "ull".toList rest).map (fun rest => (none, rest))
  | rest => decoder.map some depth rest

def list {α : Type} (decoder : Decoder α) : Decoder (List α) := fun depth bytes =>
  match skipBlanks bytes with
  | 91 :: rest =>
    match depth with
    | 0 => failAt .tooDeep rest
    | depth + 1 => items (decoder depth) (rest.length + 1) true rest
  | rest => refuseType "a sequence" rest

end Decoder

/-- A field of a record that is read into drafts of type `δ`. -/
structure Field (δ : Type) where
  name : String
  /-- Whether a draft already holds the field. -/
  filled : δ → Bool
  /-- Reads the field into a draft. -/
  fill : δ → Decoder δ
  /-- Whether a draft may be finished without the field. -/
  optional : Bool

/-- A field of form `decoder`, kept in a draft by `get` and `set`. -/
def Field.of {δ α : Type} (name : String) (get : δ → Option α) (set : δ → α → δ)
    (decoder : Decoder α) (optional : Bool) : Field δ where
  name := name
  filled draft := (get draft).isSome
  fill draft := decoder.map (set draft)
  optional := optional

structure Record (δ α : Type) where
  name : String
  empty : δ
  fields : List (Field δ)
  /-- The record, or the name of a field that the draft lacks. -/
  build : δ → Except String α

namespace Record

variable {δ α : Type}

/-- A fault that knows its place, or one that belongs where the reading stops. -/
inductive Halt where
  | placed (fault : Fault)
  | here (cause : Cause) (rest : Bytes)

def wanted (record : Record δ α) : String := "struct " ++ record.name

def wantedLength (record : Record δ α) : String :=
  record.wanted ++ " with " ++ String.ofList (Text.natural record.fields.length) ++ " elements"

/-- A fault inside the field `name`. -/
def inside {β : Type} (name : String) : Except Fault β → Except Halt β
  | .ok b => .ok b
  | .error fault => .error (.placed { fault with path := name :: fault.path })

def placed {β : Type} : Except Fault β → Except Halt β
  | .ok b => .ok b
  | .error fault => .error (.placed fault)

/-- The record of a finished draft. -/
def finish (record : Record δ α) (draft : δ) (rest : Bytes) : Except Halt (α × Bytes) :=
  match record.build draft with
  | .ok a => .ok (a, rest)
  | .error name => .error (.here (.missingField name) rest)

/-- The fields of a record as members of an object. -/
def readMembers (record : Record δ α) (depth : Nat) :
    Nat → Bool → δ → Bytes → Except Halt (α × Bytes)
  | 0, _, _, bytes => placed (failAt .endOfObject bytes)
  | fuel + 1, first, draft, bytes => do
    let (more, rest) ← placed (moreMembers first bytes)
    if !more then record.finish draft rest
    else
      let (key, rest) ← placed (readText rest.tail)
      match record.fields.find? (fun field => field.name == key) with
      | some field =>
        if field.filled draft then .error (.here (.duplicateField key) rest)
        else
          let rest ← placed (readColon rest)
          let (draft, rest) ← inside key (field.fill draft depth rest)
          record.readMembers depth fuel false draft rest
      | none =>
        let rest ← placed (readColon rest)
        let rest ← inside key (skipValue rest)
        record.readMembers depth fuel false draft rest

/-- The fields of a record as items of an array, `index` of them being read. -/
def readItems (record : Record δ α) (depth : Nat) :
    List (Field δ) → Nat → δ → Bytes → Except Halt (α × Bytes)
  | [], _, draft, bytes => record.finish draft bytes
  | field :: fields, index, draft, bytes => do
    let (more, rest) ← placed (moreItems (index == 0) bytes)
    if more then
      let place := "[" ++ String.ofList (Text.natural index) ++ "]"
      let (draft, rest) ← inside place (field.fill draft depth rest)
      record.readItems depth fields (index + 1) draft rest
    else if field.optional then record.readItems depth fields (index + 1) draft bytes
    else .error (.here (.wrongLength index record.wantedLength) rest)

/-- The end of an array whose items have been read, and where the reading stops. -/
def endItems (bytes : Bytes) : Except Fault Unit × Bytes :=
  match skipBlanks bytes with
  | [] => (failAt .endOfList [], [])
  | b :: rest =>
    if b = 93 then (.ok (), rest)
    else if b = 44 then
      match skipBlanks rest with
      | [] => (failAt .trailingCharacters [], [])
      | c :: rest =>
        if c = 93 then (failAt .trailingComma rest, c :: rest)
        else (failAt .trailingCharacters rest, c :: rest)
    else (failAt .trailingCharacters rest, b :: rest)

/-- The end of an object whose members have been read, and where the reading stops. -/
def endMembers (bytes : Bytes) : Except Fault Unit × Bytes :=
  match skipBlanks bytes with
  | [] => (failAt .endOfObject [], [])
  | b :: rest =>
    if b = 125 then (.ok (), rest)
    else if b = 44 then (failAt .trailingComma rest, b :: rest)
    else (failAt .trailingCharacters rest, b :: rest)

/-- Puts the end of the brackets behind a record. A fault without a place gets
the place where the reading stops behind that end. -/
def close (ending : Bytes → Except Fault Unit × Bytes) :
    Except Halt (α × Bytes) → Except Fault (α × Bytes)
  | .ok (a, rest) =>
    match ending rest with
    | (.ok (), rest) => .ok (a, rest)
    | (.error fault, _) => .error fault
  | .error (.placed fault) => .error fault
  | .error (.here cause rest) => failAt cause (ending rest).2

def decoder (record : Record δ α) : Decoder α := fun depth bytes =>
  match skipBlanks bytes with
  | [] => failAt .endOfValue []
  | b :: rest =>
    if b = 91 then
      match depth with
      | 0 => failAt .tooDeep rest
      | depth + 1 => close endItems (record.readItems depth record.fields 0 record.empty rest)
    else if b = 123 then
      match depth with
      | 0 => failAt .tooDeep rest
      | depth + 1 =>
        close endMembers (record.readMembers depth (rest.length + 1) true record.empty rest)
    else refuseType record.wanted (b :: rest)

end Record

/-- What a decoder reads from a whole input. -/
def decode {α : Type} (decoder : Decoder α) (input : Bytes) : Except Fault α := do
  let (a, rest) ← decoder depthLimit input
  readEnd rest
  return a

/-- What a decoder reads from the front of an input, whatever follows. -/
def decodeFront {α : Type} (decoder : Decoder α) (input : Bytes) : Except Fault α :=
  (decoder depthLimit input).map Prod.fst

end BidFleet.Json
