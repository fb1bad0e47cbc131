import BidFleet.Http.Message
import BidFleet.Http.Status
import BidFleet.Serving.Dispatch

/-!
Replies on the wire. The time of a decision and the reason for declining travel
in headers of their own, because a response without content has no body.
-/

namespace BidFleet.Serving

namespace Reply

def timeHeader : String := "x-time"

def reasonHeader : String := "x-reason"

def jsonResponse (status : Nat) (body : Bytes) : Http.Response := .ofBody status jsonType body

def toResponse (r : Reply) : Http.Response :=
  let response := Http.Response.ofBody (Http.Status.ofNumber r.status) r.contentType r.body
  let response :=
    match r.elapsed with
    | some elapsed => response.set timeHeader (toString elapsed.toNat)
    | none => response
  match r.reason with
  | some reason => response.set reasonHeader reason
  | none => response

end Reply

/-- Answers a request that came over the wire. -/
def Dispatcher.respond (d : Dispatcher) (request : Http.Request) : Serve Http.Response := do
  let target := Http.originForm request.target.toList
  let reply ← d.dispatch request.method target request.body
  return reply.toResponse

end BidFleet.Serving
