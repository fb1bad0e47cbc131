import BidFleet.Text.Utf8

/-!
HTTP messages. A header value may hold any text but control characters other
than the tab; what is set as a header is cleared of control characters first.
-/

namespace BidFleet.Http

structure Request where
  method : String
  target : String
  contentType : Option String := none
  body : Bytes := []
  deriving DecidableEq, Repr

structure Response where
  status : Nat
  headers : List (String × String) := []
  body : Bytes := []
  deriving DecidableEq, Repr

def headerOctet (b : UInt8) : Bool := b = 9 || (32 ≤ b && b != 127)

def headerText (value : String) : Bool := (Utf8.encode value).all headerOctet

/-- Whether a character is a control: below the blank, or from 127 to 159. -/
def isControl (c : Char) : Bool := c.toNat < 32 || (127 ≤ c.toNat && c.toNat ≤ 159)

/-- A text without its control characters. -/
def clear (value : String) : String :=
  String.ofList (value.toList.filter (fun c => !isControl c))

/-- What stays of a text are its characters from the blank on, but for those from 127 to 159. -/
theorem toList_clear (value : String) : (clear value).toList =
    value.toList.filter (fun c => 32 ≤ c.toNat ∧ ¬(127 ≤ c.toNat ∧ c.toNat ≤ 159)) := by
  rw [clear, String.toList_ofList]
  refine List.filter_congr fun c _ => ?_
  rw [Bool.eq_iff_iff]
  simp [isControl]

namespace Response

def header? (r : Response) (name : String) : Option String := r.headers.lookup name

/-- Puts a header, in place of another one of its name. -/
def put (r : Response) (name value : String) : Response :=
  { r with headers := r.headers.filter (fun h => h.1 != name) ++ [(name, value)] }

/-- Sets a header to a value without its control characters. -/
def set (r : Response) (name value : String) : Response :=
  if headerText (clear value) then r.put name (clear value) else r

def unknownType : String := "application/octet-stream"

/-- A response with a body; a content type that is no header value is replaced. -/
def ofBody (status : Nat) (contentType : String) (body : Bytes) : Response :=
  ⟨status, [("content-type", if headerText contentType then contentType else unknownType)], body⟩

end Response

/-- The path and query of a request target; of an absolute one, those behind its
authority. -/
def originForm (target : List Char) : List Char :=
  match target with
  | '/' :: _ => target
  | _ =>
    match target.dropWhile (· != ':') with
    | ':' :: '/' :: '/' :: rest =>
      match rest.dropWhile (fun c => c != '/' && c != '?' && c != '#') with
      | '/' :: path => '/' :: path
      | '?' :: search => '/' :: '?' :: search
      | _ => ['/']
    | _ => target

end BidFleet.Http
