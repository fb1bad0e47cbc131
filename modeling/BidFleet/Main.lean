import BidFleet.Command.Run
import BidFleet.Http.Framing
import BidFleet.Serving.Wire
import Std.Async
import Std.Time

/-!
The command line. What is to be done and said is decided by the library; here
its questions are put to the system, and its answers are carried out.
-/

namespace BidFleet.Shell

open Std.Async
open Std.Async.TCP

/-- Answers the questions of a task as they come. -/
def perform {I : Interface} {α : Type} (answer : (q : I.Question) → Async (I.Answer q)) :
    Task I α → Async α
  | .done a => pure a
  | .ask q next => do
    let r ← answer q
    perform answer (next r)

def wallClock : IO Int64 := do
  let now ← Std.Time.Timestamp.now
  return Int64.ofInt now.toMillisecondsSinceUnixEpoch.toInt

def fileFault : IO.Error → Serving.FileFault
  | .inappropriateType (some _) .. => .isDirectory
  | .inappropriateType .. => .notDirectory
  | .invalidArgument .. => .nameTooLong
  | _ => .notFound

def readFile (path : String) : IO (Except Serving.FileFault Bytes) := do
  try
    let content ← IO.FS.readBinFile path
    return .ok content.toList
  catch e => return .error (fileFault e)

def systemFault : IO.Error → String
  | .permissionDenied .. => "Permission denied (os error 13)"
  | .resourceBusy .. => "Address already in use (os error 98)"
  | e => toString e

/-! ## The network -/

def socketAddress : Http.SocketAddress → Std.Net.SocketAddress
  | .v4 ip port =>
    let octet (n : Nat) := UInt8.ofNat (ip.octets.getD n 0)
    .v4 ⟨.ofParts (octet 0) (octet 1) (octet 2) (octet 3), UInt16.ofNat port⟩
  | .v6 ip _ port =>
    let group (n : Nat) := UInt16.ofNat (ip.groups.getD n 0)
    .v6 ⟨.ofParts (group 0) (group 1) (group 2) (group 3) (group 4) (group 5) (group 6) (group 7),
      UInt16.ofNat port⟩

/-- All octets until the connection ends. -/
partial def receiveAll (client : Socket.Client) (sofar : Bytes) : Async Bytes := do
  match ← client.recv? 65536 with
  | none => return sofar
  | some chunk => receiveAll client (sofar ++ chunk.toList)

/-- The next request of a connection. -/
partial def receiveRequest (client : Socket.Client) (sofar : Bytes) :
    Async (Option Http.Request) := do
  match Http.Framing.readRequest sofar with
  | .arrived request => return some request
  | .malformed => return none
  | .incomplete =>
    match ← client.recv? 65536 with
    | none => return none
    | some chunk => receiveRequest client (sofar ++ chunk.toList)

/-- Sends a request and waits for the response. -/
def exchange (o : Membership.Outgoing) : Async (Option Http.Response) := do
  let some request := o.request? | return none
  try
    let port := o.url.port.getD 80
    let host := o.url.host.toList.filter (fun c => c != '[' && c != ']')
    let found ← DNS.getAddrInfo (String.ofList host) (toString port)
    match found.toList with
    | [] => return none
    | ip :: _ =>
      let client ← Socket.Client.mk
      client.connect (match ip with
        | .v4 addr => .v4 ⟨addr, UInt16.ofNat port⟩
        | .v6 addr => .v6 ⟨addr, UInt16.ofNat port⟩)
      client.send (Http.Framing.writeRequest o.url.authority request).toByteArray
      return Http.Framing.readResponse? (← receiveAll client [])
  catch _ => return none

abbrev Calls := (c : Pool.Call) → Async (Except Error c.Result)

def remoteCalls (client : Membership.Client) : Calls := fun c => do
  return client.receive c (← exchange (client.outgoing c))

def localCalls (store : IO.Ref Pool.MemoryStore) : Calls := fun c =>
  store.modifyGet (Pool.MemoryStore.store c)

/-- The calls of the store that is named, or of a new one. -/
def callsOf (client : Option Membership.Client) : IO Calls :=
  match client with
  | some client => return remoteCalls client
  | none => return localCalls (← IO.mkRef (.ofList []))

def serveConnection (respond : Http.Request → Async Http.Response) (client : Socket.Client) :
    Async Unit := do
  try
    if let some request ← receiveRequest client [] then
      let response ← respond request
      client.send (Http.Framing.writeResponse request.method response).toByteArray
    client.shutdown
  catch _ => return

/-- Answers connections until none can be accepted, and says why. -/
partial def acceptAll (respond : Http.Request → Async Http.Response) (server : Socket.Server) :
    Async String := do
  let accepted ←
    try
      let client ← server.accept
      pure (Except.ok client)
    catch e => pure (Except.error (systemFault e))
  match accepted with
  | .error why => return "Failed to accept connection: " ++ why
  | .ok client =>
    background (serveConnection respond client)
    acceptAll respond server

/-- Listens at an address until that fails, and says why. -/
def listen (address : Http.SocketAddress) (respond : Http.Request → Async Http.Response) :
    Async String := do
  let opened ←
    try
      let server ← Socket.Server.mk
      server.bind (socketAddress address)
      server.listen 1024
      pure (Except.ok server)
    catch e => pure (Except.error (systemFault e))
  match opened with
  | .error why => return Command.listenerFault address why
  | .ok server => acceptAll respond server

/-! ## Serving -/

structure Desk where
  host : IO.Ref (Serving.Host Pool.MemoryStore)
  started : Nat
  calls : Calls

namespace Desk

/-- Random words, more than a draw ever takes. -/
def words : IO (List UInt32) :=
  (List.range 16).mapM (fun _ => return UInt32.ofNat (← IO.rand 0 (UInt32.size - 1)))

/-- Asks the host, which keeps the knobs and the counters. -/
def ask (desk : Desk) (q : Serving.Question) : IO q.Answer :=
  desk.host.modifyGet (Serving.Host.answer Pool.MemoryStore.store q)

def answer (desk : Desk) : (q : Serving.Question) → Async q.Answer
  | .draw => do
    let words ← words
    desk.host.modify (fun h => { h with words := words })
    desk.ask .draw
  | .readUptime => return UInt64.ofNat ((← IO.monoMsNow) - desk.started)
  | .readClock => wallClock
  | .readFile path => readFile path.text
  | .callStore c => desk.calls c
  | q => desk.ask q

end Desk

def serveBidder (bidder : Command.Bidder) (calls : Calls) : Async String := do
  let host ← IO.mkRef ({ knobs := bidder.knobs, store := .ofList [] } :
    Serving.Host Pool.MemoryStore)
  let desk : Desk := ⟨host, ← IO.monoMsNow, calls⟩
  listen bidder.address (fun request => perform desk.answer (bidder.dispatcher.respond request))

def serveStore (address : Http.SocketAddress) (calls : Calls) : Async String :=
  listen address (fun request => perform calls (Membership.Server.respond request))

/-! ## Nodes -/

/-- Rests for some milliseconds, or until the node is told to stop. -/
partial def rest (node : IO.Ref Pool.Node) (left : Nat) : Async Unit := do
  if left = 0 || (← node.get).signalled then return
  let slice := min left 50
  sleep (.ofNat slice)
  rest node (left - slice)

/-- Makes the passes of a node until it has ended. -/
partial def keep (calls : Calls) (node : IO.Ref Pool.Node) : Async Unit := do
  let n ← node.get
  rest node n.config.pause.toNat
  if (← node.get).signalled then node.modify Pool.Node.shutdown
  else
    let report ← perform calls (Pool.pass n.config n.role.name? (← wallClock))
    node.modify (fun n => n.conclude report)
    unless (← node.get).state.isFinal do keep calls node

/-- Lives the life of a process with a node; `serve` gives the reason for which
its listener fails. -/
def live (p : Command.Process) (calls : Calls) (serve : Option (Async String)) :
    Async Command.Exit := do
  let n := p.node
  let report ← perform calls (Pool.pass n.config n.role.name? (← wallClock))
  let p := p.settle (n.conclude report)
  if let some exit := p.exit? then return exit
  let node ← IO.mkRef p.node
  let first : IO.Promise Command.Process.Turn ← IO.Promise.new
  let keeper ← async (do
    keep calls node
    first.resolve .nodeLost)
  if let some serve := serve then
    background (do first.resolve (.listenerFails (← serve)))
  let waiter ← Signal.Waiter.mk .sigint false
  let interrupt ← waiter.wait
  background (do
    let _ ← Async.ofAsyncTask interrupt
    first.resolve .interrupt)
  let after (p : Command.Process) (turn : Command.Process.Turn) : Async Command.Process := do
    let p := { p with node := ← node.get }
    return (p.turn turn).getD p
  let p ← after p (← Async.ofPurePromise (pure first))
  if let some exit := p.exit? then return exit
  node.modify (fun n => { n with signalled := true })
  await keeper
  let p ← after p .nodeEnded
  let p ←
    match p.stage with
    | .departing farewell => pure (p.depart (.done (← perform calls farewell)))
    | _ => pure p
  return p.exit?.getD (.success "")

/-! ## Plans -/

def failed (why : String) : Command.Exit := .failure (.failed (.transport why))

def follow : Command.Plan → Async Command.Exit
  | .finish exit => return exit
  | .ask client task => do perform (remoteCalls client) (task (← wallClock))
  | .store address => do return failed (← serveStore address (← callsOf none))
  | .bidder bidder => do
    let calls ← callsOf bidder.client
    match bidder.process? (← wallClock) with
    | none => return failed (← serveBidder bidder calls)
    | some p => live p calls (some (serveBidder bidder calls))
  | .coordinator client config => do
    live (.coordinator config (← wallClock)) (remoteCalls client) none

/-- What can be looked up for a line: the variables, and the campaign file. -/
def startup (words : List String) : IO Command.Startup := do
  let store ← IO.getEnv Command.storeVariable
  let name ← IO.getEnv Command.nameVariable
  let campaigns ←
    match Command.Invocation.read words with
    | .settled (.bidder { campaigns := some path, .. }) => readFile path
    | _ => pure (.error .notFound)
  return ⟨fun v => if v == Command.storeVariable then store else name, fun _ => campaigns⟩

end BidFleet.Shell

open BidFleet in
def main (words : List String) : IO UInt32 := do
  let plan := Command.Plan.ofWords (← Shell.startup words) words
  let exit ← (Shell.follow plan).block
  IO.print exit.output
  IO.eprint exit.complaint
  return UInt32.ofNat exit.code
