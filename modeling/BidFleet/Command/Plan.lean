import BidFleet.Command.Startup
import BidFleet.Pool.Pass

/-!
What a process sets out to do once its line has been read and its settings have
been looked at: to end at once, to ask something of a store, or to serve.
-/

namespace BidFleet.Command

open Pool

inductive Plan where
  | finish (exit : Exit)
  /-- To ask a store at some time, and to end. -/
  | ask (client : Membership.Client) (task : Int64 → Task storeCalls Exit)
  /-- To serve a store of its own. -/
  | store (address : Http.SocketAddress)
  | bidder (bidder : Bidder)
  | coordinator (client : Membership.Client) (config : Config)

namespace Plan

def answerExit : Except Error Json.Value → Exit
  | .ok value => .success (value.compact ++ "\n")
  | .error e => .failure (.failed e)

def members (settings : MembersSettings) (now : Int64) : Task storeCalls Exit :=
  match settings.remove with
  | some member => do
    let removed ← removeMember settings.config member
    return answerExit (removed.map (fun r => .object [("removed", .bool r)]))
  | none => do
    let names ← listMembers settings.config now
    return answerExit (names.map (fun ns => .array (ns.map .string)))

/-- The plan that was made, or the end that the failure to make one brings. -/
def orFail (plan : Except Failure Plan) : Plan :=
  match plan with
  | .ok plan => plan
  | .error failure => .finish (.failure failure)

def ofInvocation (startup : Startup) : Invocation → Plan
  | .bidder settings => orFail ((settings.prepare startup).map bidder)
  | .store settings => orFail ((readAddress settings.address).map store)
  | .coordinator settings =>
    orFail ((startup.requiredClient settings.store).map
      (fun client => coordinator client settings.config))
  | .members settings =>
    orFail ((startup.requiredClient settings.store).map
      (fun client => ask client (members settings)))

def ofWords (startup : Startup) (words : List String) : Plan :=
  match Invocation.read words with
  | .refused why => finish (.refusal why)
  | .help usage => finish (.success (usage ++ "\n"))
  | .settled invocation => ofInvocation startup invocation

end Plan

end BidFleet.Command
