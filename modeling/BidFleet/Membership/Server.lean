import BidFleet.Http.MediaType
import BidFleet.Http.Message
import BidFleet.Http.Query
import BidFleet.Membership.Protocol

/-!
The store behind HTTP. A path names a set and what is asked of it, and leads to
at most one call of the store. Whatever does not fit is answered without a call:
an unknown path, a method that the path does not have, a name that is no text, a
query or a body that cannot be read.
-/

namespace BidFleet.Membership

open Http

/-- What a path stands for; names are still encoded. -/
inductive Endpoint where
  | members (set : List Char)
  | member (set member : List Char)
  | range (set : List Char)
  | health
  deriving DecidableEq, Repr

namespace Endpoint

/-- The endpoint of a path. A set may have an empty name, a member may not. -/
def ofPath? (path : List Char) : Option Endpoint :=
  match (Text.split '/' path).map String.ofList with
  | ["", "sets", set, "members"] => some (members set.toList)
  | ["", "sets", set, "range"] => some (range set.toList)
  | ["", "sets", set, "members", name] =>
    if name.isEmpty then none else some (member set.toList name.toList)
  | ["", "__health"] => some health
  | _ => none

/-- The methods of an endpoint, as they are listed. -/
def methods : Endpoint → List String
  | members _ => ["POST"]
  | member _ _ => ["DELETE"]
  | range _ => ["GET", "HEAD", "DELETE"]
  | health => ["GET", "HEAD"]

end Endpoint

/-- A request that is answered without a call of the store. -/
inductive Rejection where
  | unknownPath
  | unknownMethod (endpoint : Endpoint)
  | invalidName (parameter : String)
  | noJson
  | bodyTooLong
  | malformedBody (fault : Json.Fault) (body : Bytes)
  | missingBound (name : String)
  | repeatedBound (name : String)
  | invalidBound (fault : Text.IntegerFault)

namespace Server

def plainType : String := "text/plain; charset=utf-8"

def plain (status : Nat) (text : String) : Response :=
  ⟨status, [("content-type", plainType)], Utf8.encode text⟩

def json (value : Json.Value) : Response :=
  ⟨200, [("content-type", jsonType)], Utf8.encode value.compact⟩

def reject : Rejection → Response
  | .unknownPath => ⟨404, [], []⟩
  | .unknownMethod endpoint => ⟨405, [("allow", ",".intercalate endpoint.methods)], []⟩
  | .invalidName parameter => plain 400 ("Invalid URL: Invalid UTF-8 in `" ++ parameter ++ "`")
  | .noJson => plain 415 "Expected request with `Content-Type: application/json`"
  | .bodyTooLong => plain 413 "Failed to buffer the request body: length limit exceeded"
  | .malformedBody fault body =>
    if fault.cause.ofForm then
      plain 422 ("Failed to deserialize the JSON body into the target type: " ++ fault.located body)
    else plain 400 ("Failed to parse the request body as JSON: " ++ fault.located body)
  | .missingBound name => plain 400 (queryFailure ++ "missing field `" ++ name ++ "`")
  | .repeatedBound name => plain 400 (queryFailure ++ "duplicate field `" ++ name ++ "`")
  | .invalidBound fault => plain 400 (queryFailure ++ fault.message)
where
  queryFailure : String := "Failed to deserialize query string: "

/-- The text that an encoded name stands for. -/
def readName (parameter : String) (name : List Char) : Except Rejection String :=
  match Utf8.decode? (Percent.decode (Utf8.encodeChars name)) with
  | some text => .ok text
  | none => .error (.invalidName parameter)

/-- The bounds among the pairs of a query; pairs of other names do not count. -/
def readBounds (low high : Option Int64) : List (Bytes × Bytes) → Except Rejection (Int64 × Int64)
  | [] =>
    match low, high with
    | none, _ => .error (.missingBound "min")
    | _, none => .error (.missingBound "max")
    | some low, some high => .ok (low, high)
  | (name, value) :: rest =>
    if name = Utf8.encode "min" then
      if low.isSome then .error (.repeatedBound "min")
      else
        match Text.readInt64 (Query.characters value) with
        | .ok n => readBounds (some n) high rest
        | .error fault => .error (.invalidBound fault)
    else if name = Utf8.encode "max" then
      if high.isSome then .error (.repeatedBound "max")
      else
        match Text.readInt64 (Query.characters value) with
        | .ok n => readBounds low (some n) rest
        | .error fault => .error (.invalidBound fault)
    else readBounds low high rest

/-- How many octets of a body are taken, 2 MiB. -/
def bodyLimit : Nat := 2097152

/-- The heartbeat in the body of a request. -/
def readHeartbeat (request : Request) : Except Rejection Heartbeat :=
  match request.contentType with
  | none => .error .noJson
  | some contentType =>
    if !MediaType.isJson contentType then .error .noJson
    else if bodyLimit < request.body.length then .error .bodyTooLong
    else
      match Json.decodeFront Heartbeat.record.decoder request.body with
      | .ok h => .ok h
      | .error fault => .error (.malformedBody fault request.body)

inductive Order where
  | health
  | call (c : Pool.Call)

/-- What a request for an endpoint asks for. -/
def readOrder (endpoint : Endpoint) (request : Request) (query : List Char) :
    Except Rejection Order :=
  if !endpoint.methods.contains request.method then .error (.unknownMethod endpoint)
  else
    match endpoint with
    | .health => .ok .health
    | .members set => do
      let set ← readName "set" set
      let h ← readHeartbeat request
      return .call (.upsert set h.member h.score)
    | .member set member => do
      let set ← readName "set" set
      let member ← readName "member" member
      return .call (.remove set member)
    | .range set => do
      let set ← readName "set" set
      let (low, high) ← readBounds none none (Query.pairs query)
      if request.method = "DELETE" then return .call (.removeRange set low high)
      else return .call (.range set low high)

/-- What a request asks for. What follows `#` in its target does not count. -/
def orderOf (request : Request) : Except Rejection Order :=
  let target := Text.before '#' (originForm request.target.toList)
  match Endpoint.ofPath? (Text.before '?' target) with
  | none => .error .unknownPath
  | some endpoint => readOrder endpoint request ((Text.after? '?' target).getD [])

def answered (c : Pool.Call) : Except Error c.Result → Response
  | .ok r => json (encodeResult c r)
  | .error e => plain 500 e.message

/-- A response to a request that asks only for the head has no body. -/
def finish (request : Request) (response : Response) : Response :=
  if request.method = "HEAD" then { response with body := [] } else response

def respond (request : Request) : Task Pool.storeCalls Response :=
  match orderOf request with
  | .error rejection => .done (finish request (reject rejection))
  | .ok .health => .done (finish request (plain 200 "OK"))
  | .ok (.call c) => .ask c (fun r => .done (finish request (answered c r)))

end Server

end BidFleet.Membership
