import BidFleet.Command.Invocation
import BidFleet.Membership.Client
import BidFleet.Serving.Dispatch
import BidFleet.Text.Blank

/-!
What a command finds out before it begins its work. Settings are looked at in a
fixed order, and the first one that cannot be used ends the process. A blank
setting counts as none, and the environment stands in for the flags that name
the store and the node.
-/

namespace BidFleet.Command

open Http

inductive Failure where
  | invalidAddress (text : String)
  | invalidStoreUrl (text : String)
  | noStore
  | failed (e : Error)
  deriving DecidableEq, Repr

def storeVariable : String := "RTBEDGE_STORE_URL"

def nameVariable : String := "RTBEDGE_NODE_NAME"

namespace Failure

def message : Failure → String
  | invalidAddress text => "Invalid bind address " ++ text ++ ": invalid socket address syntax"
  | invalidStoreUrl text => "Invalid store URL: '" ++ text ++ "' must start with http://"
  | noStore => "No membership store given; use --store or " ++ storeVariable
  | failed e => e.message

def cause? : Failure → Option String
  | failed e => e.cause?
  | _ => none

/-- The lines that tell of a failure; those of its cause are indented. -/
def report (f : Failure) : String :=
  let cause :=
    match f.cause? with
    | none => ""
    | some cause =>
      let lines := (Text.split '\n' cause.toList).map String.ofList
      "\nCaused by:\n" ++ String.join (lines.map (fun line => "    " ++ line ++ "\n"))
  "Error: " ++ f.message ++ "\n" ++ cause

end Failure

structure Exit where
  code : Nat
  output : String := ""
  complaint : String := ""
  deriving DecidableEq, Repr

namespace Exit

def success (output : String) : Exit := ⟨0, output, ""⟩

def failure (f : Failure) : Exit := ⟨1, "", f.report⟩

def refusal (why : Refusal) : Exit :=
  ⟨1, "", why.text ++ "\nRun " ++ Invocation.program ++ " --help for more information.\n"⟩

/-- The end of a node that has lost its store. -/
def lost : Exit := ⟨1, "", ""⟩

end Exit

/-- What a process can look up when it starts. -/
structure Startup where
  getVariable : String → Option String
  readFile : Serving.Path → Except Serving.FileFault Bytes

/-- A setting from a flag, or else from a variable; blank ones count as none. -/
def resolve (flag variable_ : Option String) : Option String :=
  match flag.filter (fun s => !Text.blank s) with
  | some s => some s
  | none => variable_.filter (fun s => !Text.blank s)

def readAddress (text : String) : Except Failure SocketAddress :=
  match SocketAddress.read? text.toList with
  | some address => .ok address
  | none => .error (.invalidAddress text)

namespace Startup

/-- The client of the store that is named, if one is. -/
def client (startup : Startup) (flag : Option String) :
    Except Failure (Option Membership.Client) :=
  match resolve flag (startup.getVariable storeVariable) with
  | none => .ok none
  | some text =>
    if (Text.stripStart? "http://".toList text.toList).isSome then
      match Membership.Client.ofText text with
      | .ok client => .ok (some client)
      | .error e => .error (.failed e)
    else .error (.invalidStoreUrl text)

/-- The client of the store that is named; there has to be one. -/
def requiredClient (startup : Startup) (flag : Option String) :
    Except Failure Membership.Client := do
  match ← startup.client flag with
  | some client => return client
  | none => throw .noStore

def name? (startup : Startup) (flag : Option String) : Option String :=
  resolve flag (startup.getVariable nameVariable)

def campaigns (startup : Startup) (path : String) : Except Failure Auction.Book :=
  match startup.readFile (Serving.Path.ofText path) with
  | .error fault => .error (.failed fault.toError)
  | .ok content => (Auction.Book.ofFile content).mapError .failed

end Startup

/-- A bidder that is about to listen. -/
structure Bidder where
  address : SocketAddress
  dispatcher : Serving.Dispatcher
  knobs : Serving.Knobs
  /-- The store of the pool; without one the pool is within the process. -/
  client : Option Membership.Client
  /-- The name under which the bidder joins the pool, if it does. -/
  name : Option String
  config : Pool.Config

def BidderSettings.prepare (s : BidderSettings) (startup : Startup) : Except Failure Bidder := do
  let address ← readAddress s.address
  if s.percent > Serving.Gate.open100 then throw (.failed (.invalidThrottle s.percent))
  let book ←
    match s.campaigns with
    | some path => startup.campaigns path
    | none => pure []
  let client ← startup.client s.store
  return {
    address := address
    dispatcher :=
      { selector := book.selector
        webRoot := .ofText s.directory
        pool := some s.config }
    knobs := { throttle := s.percent, stopped := s.stopped }
    client := client
    name := startup.name? s.name
    config := s.config }

end BidFleet.Command
