import BidFleet.Pool.Config
import BidFleet.Pool.Store

/-!
The pass of a node: a heartbeat of the node itself, when it has a name, then a
sweep of the members whose heartbeats are too old. Whatever call fails first
ends the pass. Members whose scores are negative are never swept.
-/

namespace BidFleet.Pool

structure Report where
  now : Int64
  staleBefore : Int64
  stale : List String
  removed : Nat
  deriving DecidableEq, Repr

def sweep (config : Config) (now : Int64) : Task storeCalls (Except Error Report) :=
  call (.range config.pool 0 (config.staleBefore now)) (fun stale =>
    call (.removeRange config.pool 0 (config.staleBefore now)) (fun removed =>
      .done (.ok ⟨now, config.staleBefore now, stale, removed⟩)))

def pass (config : Config) (name : Option String) (now : Int64) :
    Task storeCalls (Except Error Report) :=
  match name with
  | some name => call (.upsert config.pool name now) (fun _ => sweep config now)
  | none => sweep config now

/-- The names of the live members at the time `now`. -/
def listMembers (config : Config) (now : Int64) : Task storeCalls (Except Error (List String)) :=
  callOnce (.range config.pool 0 (now + listHorizon))

def removeMember (config : Config) (name : String) : Task storeCalls (Except Error Bool) :=
  callOnce (.remove config.pool name)

end BidFleet.Pool
