import BidFleet.Http.Message
import BidFleet.Http.Status
import BidFleet.Text.Integer
import BidFleet.Text.Segments

/-!
Messages as octets. A message is a first line, lines of headers, an empty line
and a body. The length of a body is given by a header; a body without a length
ends with the connection. Every message is the last one on its connection.
-/

namespace BidFleet.Http.Framing

def line (text : String) : Bytes := Utf8.encode text ++ [13, 10]

/-- The octets up to the end of the first line, and those after it; `none` when
no line has ended. -/
def takeLine? : Bytes → Option (Bytes × Bytes)
  | 13 :: 10 :: rest => some ([], rest)
  | b :: rest => (takeLine? rest).map (fun (front, rest) => (b :: front, rest))
  | [] => none

/-- The lines up to the first empty one, and what follows it. -/
def takeHead? : Nat → Bytes → Option (List Bytes × Bytes)
  | 0, _ => none
  | fuel + 1, bytes =>
    match takeLine? bytes with
    | none => none
    | some ([], rest) => some ([], rest)
    | some (first, rest) =>
      (takeHead? fuel rest).map (fun (lines, body) => (first :: lines, body))

/-- A header line as a name in lower case and a value without blanks around it. -/
def readHeader? (text : Bytes) : Option (String × String) :=
  match Utf8.decode? text with
  | none => none
  | some text =>
    let blank (c : Char) := c == ' ' || c == '\t'
    match Text.after? ':' text.toList with
    | none => none
    | some value =>
      let value := ((value.dropWhile blank).reverse.dropWhile blank).reverse
      some ((String.ofList (Text.before ':' text.toList)).toLower, String.ofList value)

structure Head where
  first : List String
  headers : List (String × String)
  rest : Bytes

inductive Arrival (α : Type) where
  | incomplete
  | malformed
  | arrived (a : α)

def readHead (bytes : Bytes) : Arrival Head :=
  match takeHead? (bytes.length + 1) bytes with
  | none => .incomplete
  | some ([], _) => .malformed
  | some (first :: lines, rest) =>
    match Utf8.decode? first, lines.mapM readHeader? with
    | some first, some headers =>
      .arrived ⟨(Text.split ' ' first.toList).map String.ofList, headers, rest⟩
    | _, _ => .malformed

/-- The length that the headers give to a body. -/
def bodyLength (headers : List (String × String)) : Except Text.IntegerFault (Option Nat) :=
  match headers.lookup "content-length" with
  | none => .ok none
  | some digits => (Text.readNatural (UInt64.size - 1) digits.toList).map some

/-- The request that has arrived; one without a length has no body. -/
def readRequest (bytes : Bytes) : Arrival Request :=
  match readHead bytes with
  | .incomplete => .incomplete
  | .malformed => .malformed
  | .arrived head =>
    match head.first, bodyLength head.headers with
    | [method, target, _], .ok length =>
      if head.rest.length < length.getD 0 then .incomplete
      else .arrived ⟨method, target, head.headers.lookup "content-type",
        head.rest.take (length.getD 0)⟩
    | _, _ => .malformed

/-- The response that has arrived when the connection has ended. -/
def readResponse? (bytes : Bytes) : Option Response :=
  match readHead bytes with
  | .arrived head =>
    match head.first, bodyLength head.headers with
    | _ :: status :: _, .ok length =>
      match Text.readNatural 999 status.toList with
      | .ok status => some ⟨status, head.headers, head.rest.take (length.getD head.rest.length)⟩
      | .error _ => none
    | _, _ => none
  | _ => none

def header (name value : String) : Bytes := line (name ++ ": " ++ value)

/-- The headers that frame a body, and the end of the head. -/
def frame (body : Bytes) : Bytes :=
  header "content-length" (toString body.length) ++ header "connection" "close" ++ line ""

/-- Whether the response to a request has a body on the wire. -/
def carriesBody (method : String) (status : Nat) : Bool := method != "HEAD" && status != 204

def writeResponse (method : String) (r : Response) : Bytes :=
  let body := if carriesBody method r.status then r.body else []
  line ("HTTP/1.1 " ++ Status.text r.status) ++
    r.headers.flatMap (fun (name, value) => header name value) ++ frame body ++ body

def writeRequest (host : String) (r : Request) : Bytes :=
  line (r.method ++ " " ++ r.target ++ " HTTP/1.1") ++ header "host" host ++
    ((r.contentType.map (header "content-type")).getD []) ++ frame r.body ++ r.body

end BidFleet.Http.Framing
