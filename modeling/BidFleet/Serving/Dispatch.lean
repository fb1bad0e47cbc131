import BidFleet.Auction.Campaign
import BidFleet.Pool.Pass
import BidFleet.Serving.Host
import BidFleet.Serving.Route
import BidFleet.Serving.Snapshot

/-!
Dispatch. Every request is answered by the task of its route. A request on a bid
path always ends in a decision: what cannot be parsed, selected or routed is
declined with a reason, and only an opportunity that went past the gate and was
matched, or not, against the campaigns is counted.
-/

namespace BidFleet.Serving

open Auction

structure Dispatcher where
  selector : Selector
  exchanges : Registry := .default
  webRoot : WebRoot := {}
  /-- The pool that is listed, when a store is attached. -/
  pool : Option Pool.Config := none

structure Reply where
  status : Nat
  contentType : String
  body : Bytes
  /-- The milliseconds that a decision took. -/
  elapsed : Option UInt64 := none
  /-- Why an opportunity was declined. -/
  reason : Option String := none

namespace Reply

def jsonType : String := "application/json;charset=utf-8"

def htmlType : String := "text/html"

def scriptType : String := "text/javascript;charset=utf-8"

def textType : String := "text/plain"

def json (status : Nat) (value : Json.Value) : Reply :=
  ⟨status, jsonType, Utf8.encode value.compact, none, none⟩

/-- An answer that says what went wrong. -/
def failure (status : Nat) (message : String) : Reply :=
  json status (.object [("error", .string message)])

def decision (d : Decision) (elapsed : UInt64) : Reply :=
  ⟨d.status, jsonType, Utf8.encode d.toJson.compact, some elapsed, d.reason?⟩

def members (names : List String) : Reply :=
  json 200 (.object [("members", .array (names.map .string))])

end Reply

namespace Dispatcher

def noCampaigns : String := "no campaigns loaded"

def serverStopped : String := "server stopped"

def serverThrottled : String := "server throttled"

def noMatch : String := "no matching campaign"

def selectionPanicked : String := "campaign selection panicked"

def wrongTarget (target : List Char) : String := "wrong target: " ++ String.ofList target

/-- Counts what a selection is counted as, and makes it a decision. -/
def conclude (id : String) : Selection → Serve Decision
  | .bid b => do
    query .countBid
    return .bid b
  | .noMatch => do
    query .countNoBid
    return .decline id noMatch
  | .refused e => return .decline id e.message
  | .panicked => return .decline id selectionPanicked

/-- Takes an opportunity past the knobs and the gate to the campaigns. -/
def consider (d : Dispatcher) (o : Opportunity) : Serve Decision := do
  if d.selector.count = 0 then return .decline o.id noCampaigns
  if ← query .readStopped then return .decline o.id serverStopped
  if ← passGate then conclude o.id (d.selector.select o)
  else return .decline o.id serverThrottled

def bid (d : Dispatcher) (exchange : String) (target : List Char) (body : Bytes) :
    Serve Decision :=
  match d.exchanges.get? exchange with
  | none => return .decline "" (wrongTarget target)
  | some adapter =>
    match adapter.parse body with
    | .ok o => d.consider o
    | .error e => return .decline "" e.message

/-- The status, read knob by knob. -/
def status (d : Dispatcher) : Serve Snapshot := do
  let throttle ← query .readThrottle
  let stopped ← query .readStopped
  let bids ← query .readBids
  let noBids ← query .readNoBids
  let uptime ← query .readUptime
  return ⟨throttle, stopped, bids, noBids, d.selector.ids, uptime, Snapshot.currentVersion⟩

/-- A decision and the time that it took. -/
def timed (decide : Serve Decision) : Serve Reply := do
  let started ← query .readUptime
  let decision ← decide
  let ended ← query .readUptime
  return .decision decision (ended - started)

/-- The status after a change. -/
def confirm (d : Dispatcher) : Serve Reply := do
  let snapshot ← d.status
  return .json 200 snapshot.toJson

def applyStopped (d : Dispatcher) (stopped : Bool) : Serve Reply := do
  query (.writeStopped stopped)
  d.confirm

def applyThrottle (d : Dispatcher) (value : String) : Serve Reply :=
  match Text.readUInt8 value.toList with
  | .error _ =>
    return .failure 400 (Error.invalidRequest ("invalid throttle value: " ++ value)).message
  | .ok percent => do
    match ← setThrottle percent with
    | .error e => return .failure 400 e.message
    | .ok () => d.confirm

/-- A file, or the answer that there is none. -/
def asset (contentType : String) (target : List Char) (path : Except Error Path) : Serve Reply := do
  let missing := Reply.failure 404 ("not found: " ++ String.ofList target)
  match path with
  | .error _ => return missing
  | .ok path =>
    match ← query (.readFile path) with
    | .ok content => return ⟨200, contentType, content, none, none⟩
    | .error _ => return missing

def poolMembers (d : Dispatcher) : Serve Reply :=
  match d.pool with
  | none => return .members []
  | some config => do
    let now ← query .readClock
    match ← onStore (Pool.listMembers config now) with
    | .ok names => return .members names
    | .error e => return .failure 503 e.message

def serve (d : Dispatcher) (route : Route) (target : List Char) (body : Bytes) : Serve Reply :=
  match route with
  | .favicon => return ⟨200, Reply.textType, [], none, none⟩
  | .simulator => asset Reply.htmlType target (.ok d.webRoot.simulatorPage)
  | .webAsset rel => asset Reply.scriptType target (d.webRoot.script rel)
  | .win notice => return .json 200 notice.acknowledgement
  | .status => d.confirm
  | .pool => d.poolMembers
  | .throttle value => d.applyThrottle value
  | .stop => d.applyStopped true
  | .start => d.applyStopped false
  | .bid exchange => timed (d.bid exchange target body)
  | .wrongTarget => timed (return .decline "" (wrongTarget target))

def dispatch (d : Dispatcher) (method : String) (target : List Char) (body : Bytes) : Serve Reply :=
  d.serve (Route.classify method target) target body

end Dispatcher

end BidFleet.Serving
