import BidFleet.Command.Plan
import BidFleet.Command.Process
import BidFleet.Membership.Link
import BidFleet.Pool.Members

/-!
What becomes of a command line in given surroundings, up to the moment at which
a process that serves has nothing to do but wait.
-/

namespace BidFleet.Command

open Pool

/-- The surroundings of a process. Beyond the network stands whatever has states
of type `σ`. -/
structure Surroundings (σ : Type) where
  startup : Startup
  network : Membership.Link σ
  /-- Why the system refuses to open a listener at an address, if it does. -/
  refusesListener : Http.SocketAddress → Option String
  /-- Whether an interrupt comes as soon as the process waits. -/
  interrupted : Bool
  now : Int64

def listenerFault (address : Http.SocketAddress) (why : String) : String :=
  "Failed to bind to " ++ address.text ++ ": " ++ why

namespace Surroundings

variable {σ : Type}

/-- Why a listener cannot be opened, if it cannot. -/
def listenerFault? (env : Surroundings σ) (address : Http.SocketAddress) : Option String :=
  (env.refusesListener address).map (listenerFault address)

/-- The end of a server without a node; `none` when it waits. -/
def serve (env : Surroundings σ) (address : Http.SocketAddress) : Option Exit :=
  (env.listenerFault? address).map (fun why => .failure (.failed (.transport why)))

/-- The first moments of a process with a node; `none` when it waits. -/
def live (env : Surroundings σ) (client : Option Membership.Client) (p : Process)
    (listenerFault : Option String) (s : σ) : Option Exit × σ :=
  let events := Process.openingEvents listenerFault env.interrupted
  match client with
  | some client =>
    let (p, s) := p.play (env.network.store client) events s
    (p.exit?, s)
  | none => ((p.play MemoryStore.store events (.ofList [])).1.exit?, s)

def follow (env : Surroundings σ) (plan : Plan) (s : σ) : Option Exit × σ :=
  match plan with
  | .finish exit => (some exit, s)
  | .ask client task =>
    let (exit, s) := (task env.now).run (env.network.store client) s
    (some exit, s)
  | .store address => (env.serve address, s)
  | .bidder bidder =>
    match bidder.process? env.now with
    | none => (env.serve bidder.address, s)
    | some p => env.live bidder.client p (env.listenerFault? bidder.address) s
  | .coordinator client config => env.live (some client) (.coordinator config env.now) none s

/-- Runs a command line; `none` when the process waits. -/
def run (env : Surroundings σ) (words : List String) (s : σ) : Option Exit × σ :=
  env.follow (.ofWords env.startup words) s

end Surroundings

end BidFleet.Command
