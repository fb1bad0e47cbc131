import BidFleet.Membership.Client
import BidFleet.Membership.Server

/-!
Links between clients and servers. Over a link a client is a store like any
other; what the calls do is decided by whatever stands at the far end.
-/

namespace BidFleet.Membership

open Http

/-- Carries requests to whatever answers them; `none` when they do not arrive. -/
abbrev Link (σ : Type) := Request → σ → Option Response × σ

namespace Link

def down {σ : Type} : Link σ := fun _ s => (none, s)

/-- The link to a server in front of a store. -/
def toServer {σ : Type} (store : Pool.Store σ) : Link σ := fun request s =>
  let (response, s) := (Server.respond request).run store s
  (some response, s)

/-- The store that a client sees over a link. A request that cannot be made changes nothing. -/
def store {σ : Type} (link : Link σ) (client : Client) : Pool.Store σ := fun c s =>
  match (client.outgoing c).request? with
  | none => (client.receive c none, s)
  | some request =>
    let (response, s) := link request s
    (client.receive c response, s)

end Link

end BidFleet.Membership
