import BidFleet.Text.Percent
import BidFleet.Text.Segments

/-!
Query strings. A query is a list of pairs with `&` between them; a pair is a
name and, behind the first `=`, a value. A plus sign is a blank, and everything
may be percent-encoded.
-/

namespace BidFleet.Http.Query

/-- The octets that a part of a pair stands for. -/
def decode (part : List Char) : Bytes :=
  Percent.decode (Utf8.encodeChars (part.map (fun c => if c = '+' then ' ' else c)))

def pair (text : List Char) : Bytes × Bytes :=
  (decode (Text.before '=' text), decode ((Text.after? '=' text).getD []))

def pairs (query : List Char) : List (Bytes × Bytes) := (Text.segments '&' query).map pair

/-- Octets as characters, one for one. -/
def characters (bytes : Bytes) : List Char := bytes.map (fun b => Char.ofNat b.toNat)

end BidFleet.Http.Query
