/-!
Text on the wire. A byte sequence is a list of octets, and a text is carried as
the UTF-8 encoding of its characters. `head?` reads one character from the
front of a byte sequence, and `decode?` reads all of it or nothing.
-/

namespace BidFleet

/-- The octets of a request body, a response body or a file. -/
abbrev Bytes := List UInt8

namespace Utf8

def encodeChars (cs : List Char) : Bytes := cs.flatMap String.utf8EncodeChar

def encode (text : String) : Bytes := encodeChars text.toList

/-- The first character of a byte sequence and the octets after it; `none` when
the sequence is empty or starts with no well-formed character. -/
def head? (bytes : Bytes) : Option (Char × Bytes) :=
  match (bytes.take 4).toByteArray.utf8DecodeChar? 0 with
  | some c => some (c, bytes.drop c.utf8Size)
  | none => none

/-- The characters of a byte sequence, reading at most `fuel` of them. -/
def decodeChars? : Nat → Bytes → Option (List Char)
  | _, [] => some []
  | 0, _ :: _ => none
  | fuel + 1, b :: bs =>
    match head? (b :: bs) with
    | some (c, rest) => (decodeChars? fuel rest).map (c :: ·)
    | none => none

/-- The text whose encoding is `bytes`, if there is one. -/
def decode? (bytes : Bytes) : Option String :=
  (decodeChars? bytes.length bytes).map String.ofList

@[simp] theorem encodeChars_nil : encodeChars [] = [] := rfl

@[simp] theorem encodeChars_cons (c : Char) (cs : List Char) :
    encodeChars (c :: cs) = String.utf8EncodeChar c ++ encodeChars cs := rfl

@[simp] theorem encodeChars_append (a b : List Char) :
    encodeChars (a ++ b) = encodeChars a ++ encodeChars b := by
  simp [encodeChars]

end Utf8

end BidFleet
