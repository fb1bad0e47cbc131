import BidFleet.Command.Startup
import BidFleet.Pool.Node

/-!
The life of a process that keeps a node in the pool. It joins, then serves until
the listener fails, the node is lost or an interrupt comes; only the interrupt
makes it leave the pool before it ends. The node goes on with its passes
meanwhile, so all of this is a matter of events, in whatever order they come.
-/

namespace BidFleet.Command

open Pool

inductive Stage where
  /-- The node makes its first pass. -/
  | joining
  | serving
  /-- The node has been told to stop. -/
  | leaving
  /-- The node has stopped; what is left to be asked of the store. -/
  | departing (farewell : Task storeCalls (Except Error Unit))
  | ended (exit : Exit)

structure Process where
  node : Node
  /-- Whether the node removes its own record when it leaves. -/
  removeSelf : Bool
  stage : Stage := .joining

namespace Process

def start (name : Option String) (config : Config) (removeSelf : Bool) (now : Int64) : Process where
  node := .start (.ofName name) config now
  removeSelf := removeSelf

def coordinator (config : Config) (now : Int64) : Process := start none config false now

def finish (p : Process) (exit : Exit) : Process := { p with stage := .ended exit }

def fail (p : Process) (e : Error) : Process := p.finish (.failure (.failed e))

/-- The process once its node has made a step; the first pass decides whether it
serves. -/
def settle (p : Process) (n : Node) : Process :=
  let p := { p with node := n }
  match p.stage, n.joined with
  | .joining, some (.ok ()) => { p with stage := .serving }
  | .joining, some (.error e) => p.fail e
  | _, _ => p

/-- The process with the rest of its farewell before it. -/
def depart (p : Process) : Task storeCalls (Except Error Unit) → Process
  | .done (.ok ()) => p.finish (.success "")
  | .done (.error e) => p.fail e
  | farewell => { p with stage := .departing farewell }

/-- What turns the life of a process without a call of the store. -/
inductive Turn where
  /-- The listener cannot be opened or gives up. -/
  | listenerFails (why : String)
  /-- Notice is taken of a node that has terminated. -/
  | nodeLost
  | interrupt
  /-- The node that was told to stop has ended. -/
  | nodeEnded
  deriving DecidableEq, Inhabited, Repr

/-- The process after a turn; `none` when the turn cannot happen. -/
def turn (p : Process) : Turn → Option Process
  | .listenerFails why =>
    match p.stage with
    | .serving => some (p.fail (.transport why))
    | _ => none
  | .nodeLost =>
    match p.stage, p.node.state with
    | .serving, .terminated _ => some (p.finish .lost)
    | _, _ => none
  | .interrupt =>
    match p.stage with
    | .serving => some { p with node := { p.node with signalled := true }, stage := .leaving }
    | _ => none
  | .nodeEnded =>
    match p.stage, p.node.phase with
    | .leaving, .ended => some (p.depart (p.node.farewell p.removeSelf))
    | _, _ => none

/-- What may happen to a process. -/
inductive Event where
  | node (e : Node.Event)
  | turn (t : Turn)
  /-- The next call of the farewell is made. -/
  | farewell
  deriving DecidableEq, Repr

/-- The process and the store after an event; `none` when the event cannot happen. -/
def next {σ : Type} (store : Store σ) (p : Process) (s : σ) : Event → Option (Process × σ)
  | .node e =>
    match p.stage with
    | .ended _ | .departing _ => none
    | _ => (p.node.next store s e).map (fun (n, s) => (p.settle n, s))
  | .turn t => (p.turn t).map (fun p => (p, s))
  | .farewell =>
    match p.stage with
    | .departing (.ask c go) => some (p.depart (go (store c s).1), (store c s).2)
    | _ => none

/-- The process and the store after a list of events; events that cannot happen
are passed over. -/
def play {σ : Type} (store : Store σ) : List Event → Process → σ → Process × σ
  | [], p, s => (p, s)
  | e :: es, p, s =>
    match p.next store s e with
    | some (p, s) => play store es p s
    | none => play store es p s

def exit? (p : Process) : Option Exit :=
  match p.stage with
  | .ended exit => some exit
  | _ => none

/-- The calls of the first pass. -/
def joiningEvents : List Event := List.replicate 3 (.node .call)

/-- An interrupt between two passes, and all that follows from it. -/
def interruptEvents : List Event :=
  [.turn .interrupt, .node .heed, .turn .nodeEnded, .farewell]

/-- The first moments of a process: it joins and opens its listener, if it has
one to open, and an interrupt may come before the next pass. -/
def openingEvents (listenerFault : Option String) (interrupted : Bool) : List Event :=
  joiningEvents ++ (listenerFault.map (fun why => Event.turn (.listenerFails why))).toList ++
    (if interrupted then interruptEvents else [])

end Process

def Bidder.process? (bidder : Bidder) (now : Int64) : Option Process :=
  bidder.name.map (fun name => .start (some name) bidder.config true now)

end BidFleet.Command
