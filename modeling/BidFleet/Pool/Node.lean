import BidFleet.Pool.Pass

/-!
The life of a pool node. A node makes passes with rests between them. The end of
its first pass makes it ready, the end of the second running; a failed call
terminates it at once, and a shutdown stops it at its next rest, so that a pass
that has begun comes to its own end. What a node does next is an event; events
of several nodes may be interleaved in any order.
-/

namespace BidFleet.Pool

/-- What a node publishes about itself. -/
inductive NodeState where
  | joining
  | ready
  | running
  | stopped
  | terminated (reason : String)
  deriving DecidableEq, Repr

namespace NodeState

/-- Whether a state is never left. -/
def isFinal : NodeState → Bool
  | stopped | terminated _ => true
  | _ => false

def reason? : NodeState → Option String
  | terminated reason => some reason
  | _ => none

/-- The state after a pass that did not fail. -/
def alive : NodeState → NodeState
  | joining => ready
  | ready => running
  | other => other

end NodeState

inductive Phase where
  /-- In a pass, with the rest of it still to be asked. -/
  | passing (pass : Task storeCalls (Except Error Report))
  /-- Between two passes. -/
  | resting
  | ended

structure Node where
  role : Role
  config : Config
  phase : Phase
  state : NodeState := .joining
  /-- Whether a shutdown was asked for. -/
  signalled : Bool := false
  /-- How the first pass ended, once it has. -/
  joined : Option (Except Error Unit) := none

namespace Node

def start (role : Role) (config : Config) (now : Int64) : Node where
  role := role
  config := config
  phase := .passing (pass config role.name? now)

def conclude (n : Node) : Except Error Report → Node
  | .ok _ =>
    { n with
      phase := .resting
      state := n.state.alive
      joined := some (n.joined.getD (.ok ())) }
  | .error e =>
    { n with
      phase := .ended
      state := .terminated e.message
      joined := some (n.joined.getD (.error e)) }

/-- The node with a pass or the rest of one before it; a pass that has nothing
left to ask is concluded. -/
def resume (n : Node) (pass : Task storeCalls (Except Error Report)) : Node :=
  match pass with
  | .done r => n.conclude r
  | pass => { n with phase := .passing pass }

inductive Event where
  /-- The rest is over, and a pass begins at this time. -/
  | tick (now : Int64)
  /-- The next call of the pass is made. -/
  | call
  /-- A shutdown is asked for, or whoever could ask for one is gone. -/
  | signal
  /-- A resting node takes notice of the shutdown. -/
  | heed
  /-- The node is cut off, wherever it is. -/
  | abort
  deriving DecidableEq, Repr

/-- The node and the store after an event; `none` when the event cannot happen. -/
def next {σ : Type} (store : Store σ) (n : Node) (s : σ) : Event → Option (Node × σ)
  | .tick now =>
    match n.phase with
    | .resting => some (n.resume (pass n.config n.role.name? now), s)
    | _ => none
  | .call =>
    match n.phase with
    | .passing (.ask c go) => some (n.resume (go (store c s).1), (store c s).2)
    | _ => none
  | .signal => some ({ n with signalled := true }, s)
  | .heed =>
    match n.phase, n.signalled with
    | .resting, true => some ({ n with phase := .ended, state := .stopped }, s)
    | _, _ => none
  | .abort => some ({ n with phase := .ended }, s)

/-- Makes all the calls that are left of a pass, with nothing in between. -/
def finishPass {σ : Type} (store : Store σ) (n : Node) (s : σ) : Node × σ :=
  match n.phase with
  | .passing pass =>
    let (r, s) := pass.run store s
    (n.conclude r, s)
  | _ => (n, s)

/-- Ends the rest and makes a whole pass at the time `now`. -/
def wholePass {σ : Type} (store : Store σ) (n : Node) (now : Int64) (s : σ) : Node × σ :=
  match n.phase with
  | .resting => finishPass store (n.resume (pass n.config n.role.name? now)) s
  | _ => (n, s)

/-- Joins the pool: a node that has made its first pass. The error of a pass that
fails is the error of the join. -/
def join {σ : Type} (store : Store σ) (role : Role) (config : Config) (now : Int64) (s : σ) :
    Except Error Node × σ :=
  let (n, s) := finishPass store (start role config now) s
  match n.joined with
  | some (.ok ()) => (.ok n, s)
  | some (.error e) => (.error e, s)
  | none => (.error (.nodeTerminated (role.display ++ " exited before its first cycle")), s)

/-- The shutdown of a node between its passes. -/
def shutdown (n : Node) : Node :=
  match n.phase with
  | .resting => { n with signalled := true, phase := .ended, state := .stopped }
  | _ => { n with signalled := true }

/-- What is left to be asked when a node has ended and leaves: the removal of its
own record, when that is wished and it has one. -/
def farewell (n : Node) (removeSelf : Bool) : Task storeCalls (Except Error Unit) :=
  match removeSelf, n.role.name? with
  | true, some name => call (.remove n.config.pool name) (fun _ => .done (.ok ()))
  | _, _ => .done (.ok ())

/-- Leaves the pool: the shutdown, then the farewell. -/
def leave {σ : Type} (store : Store σ) (n : Node) (removeSelf : Bool) (s : σ) :
    Except Error Unit × σ :=
  (n.shutdown.farewell removeSelf).run store s

end Node

end BidFleet.Pool
