import BidFleet.Serving.Files
import BidFleet.Serving.Gate
import BidFleet.Pool.Store

/-!
What serving asks of its surroundings. The knobs and the counters are shared by
all requests, and each question reads or changes one of them at once, so that
requests served side by side may be interleaved at any question. A host keeps
the answers: the knobs, a supply of random words, the clocks, the files and the
membership store.
-/

namespace BidFleet.Serving

inductive Question where
  | readThrottle
  | writeThrottle (percent : UInt8)
  | readStopped
  | writeStopped (stopped : Bool)
  | countBid
  | countNoBid
  | readBids
  | readNoBids
  /-- A random outcome of the throttle gate. -/
  | draw
  /-- The milliseconds since the bidder was started. -/
  | readUptime
  /-- The milliseconds since the epoch. -/
  | readClock
  | readFile (path : Path)
  | callStore (call : Pool.Call)

namespace Question

abbrev Answer : Question → Type
  | readThrottle => UInt8
  | readStopped => Bool
  | readBids | readNoBids | readUptime => UInt64
  | writeThrottle _ | writeStopped _ | countBid | countNoBid => Unit
  | draw => Nat
  | readClock => Int64
  | readFile _ => Except FileFault Bytes
  | callStore c => Except Error c.Result

end Question

abbrev questions : Interface := ⟨Question, Question.Answer⟩

abbrev Serve (α : Type) := Task questions α

def query (q : Question) : Serve q.Answer := .ask q .done

/-- A task on the store, with its calls asked by the serving side. -/
def onStore {α : Type} (task : Task Pool.storeCalls α) : Serve α :=
  task.via (fun c => .ask (.callStore c) .done)

structure Knobs where
  throttle : UInt8 := 100
  stopped : Bool := false
  bids : UInt64 := 0
  noBids : UInt64 := 0
  deriving DecidableEq, Repr

structure Host (σ : Type) where
  knobs : Knobs := {}
  words : List UInt32 := []
  uptime : UInt64 := 0
  clock : Int64 := 0
  files : FileTree := .directory []
  store : σ

namespace Host

/-- Answers a question and changes what it changes. -/
def answer {σ : Type} (store : Pool.Store σ) : Handler questions (Host σ)
  | .readThrottle, h => (h.knobs.throttle, h)
  | .writeThrottle percent, h => ((), { h with knobs := { h.knobs with throttle := percent } })
  | .readStopped, h => (h.knobs.stopped, h)
  | .writeStopped stopped, h => ((), { h with knobs := { h.knobs with stopped := stopped } })
  | .countBid, h => ((), { h with knobs := { h.knobs with bids := h.knobs.bids + 1 } })
  | .countNoBid, h => ((), { h with knobs := { h.knobs with noBids := h.knobs.noBids + 1 } })
  | .readBids, h => (h.knobs.bids, h)
  | .readNoBids, h => (h.knobs.noBids, h)
  | .draw, h =>
    let (n, used) := Gate.draw h.words
    (n, { h with words := h.words.drop used })
  | .readUptime, h => (h.uptime, h)
  | .readClock, h => (h.clock, h)
  | .readFile path, h => (h.files.read path, h)
  | .callStore c, h =>
    let (r, s) := store c h.store
    (r, { h with store := s })

end Host

/-- Lets the throttle gate decide at the percentage that is read first. -/
def passGate : Serve Bool := do
  let percent ← query .readThrottle
  if percent ≥ Gate.open100 then return true
  let n ← query .draw
  return n < percent.toNat

/-- Sets the throttle; a percentage above 100 is refused. -/
def setThrottle (percent : UInt8) : Serve (Except Error Unit) := do
  if percent > Gate.open100 then return .error (.invalidThrottle percent)
  query (.writeThrottle percent)
  return .ok ()

end BidFleet.Serving
