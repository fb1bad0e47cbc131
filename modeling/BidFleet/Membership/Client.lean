import BidFleet.Http.Message
import BidFleet.Http.Status
import BidFleet.Http.Url
import BidFleet.Membership.Protocol

/-!
The store seen over HTTP. A client turns every call into one request below its
base URL and reads the result from the response. A request that cannot be sent,
an answer that is no success and a body that cannot be read are all failures of
the store.
-/

namespace BidFleet.Membership

open Http

structure Client where
  base : Url
  deriving DecidableEq, Repr

structure Outgoing where
  method : String
  url : Url
  body : Option Bytes := none
  deriving DecidableEq, Repr

namespace Outgoing

/-- The request as it arrives. -/
def request (o : Outgoing) : Request :=
  ⟨o.method, o.url.target, o.body.map (fun _ => jsonType), o.body.getD []⟩

/-- The request, if it can be made at all. -/
def request? (o : Outgoing) : Option Request := if o.url.isRequestable then some o.request else none

end Outgoing

namespace Client

/-- The client for the URL that a text gives; only plain HTTP is spoken. -/
def ofText (text : String) : Except Error Client :=
  let refuse (why : String) : Except Error Client :=
    .error (.invalidRequest ("Invalid store URL " ++ text ++ ": " ++ why))
  match Url.parse text with
  | .error fault => refuse fault.text
  | .ok (.other _) => refuse "not an http URL"
  | .ok (.hosted url) => if url.scheme = "http" then .ok ⟨url.withoutUser⟩ else refuse "not an http URL"

def url (client : Client) (set : String) (tail : List String) : Url :=
  tail.foldl Url.push ((client.base.popIfEmpty.push "sets").push set)

def rangeUrl (client : Client) (set : String) (low high : Int64) : Url :=
  ((client.url set ["range"]).addQuery "min" (String.ofList (Text.integer low.toInt))).addQuery
    "max" (String.ofList (Text.integer high.toInt))

def outgoing (client : Client) : Pool.Call → Outgoing
  | .upsert set member score =>
    ⟨"POST", client.url set ["members"],
      some (Utf8.encode (Heartbeat.mk member score).toJson.compact)⟩
  | .range set low high => ⟨"GET", client.rangeUrl set low high, none⟩
  | .removeRange set low high => ⟨"DELETE", client.rangeUrl set low high, none⟩
  | .remove set member => ⟨"DELETE", client.url set ["members", member], none⟩

/-- Why a request could not be sent. -/
def unsent (url : Url) : String :=
  let fault := if url.isRequestable then "error sending request" else "builder error"
  fault ++ " for url (" ++ url.text ++ ")"

/-- What a client makes of the response to a call; `none` when the request could
not be sent. -/
def receive (client : Client) (c : Pool.Call) : Option Response → Except Error c.Result
  | none => .error (.storeUnavailable (unsent (client.outgoing c).url))
  | some response =>
    if Status.isSuccess response.status then
      match Json.decode (resultDecoder c) response.body with
      | .ok r => .ok r
      | .error _ => .error (.malformedStoreReply "error decoding response body")
    else .error (.storeUnavailable ("store answered with HTTP " ++ Status.text response.status))

end Client

end BidFleet.Membership
