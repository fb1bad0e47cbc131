import BidFleet.Command.Usage
import BidFleet.Http.Address
import BidFleet.Pool.Config

/-!
The four commands, their flags and their defaults. A line that is accepted comes
to an invocation: a command with its settings.
-/

namespace BidFleet.Command

/-! ## Values -/

def textValue (text : String) : Except String String := .ok text

def octetValue (text : String) : Except String UInt8 :=
  (Text.readUInt8 text.toList).mapError (·.message)

def wordValue (text : String) : Except String UInt64 :=
  (Text.readUInt64 text.toList).mapError (·.message)

/-! ## Settings -/

structure BidderSettings where
  bind : Option String := none
  campaigns : Option String := none
  webRoot : Option String := none
  name : Option String := none
  store : Option String := none
  throttle : Option UInt8 := none
  stopped : Bool := false
  pool : Option String := none
  interval : Option UInt64 := none
  pause : Option UInt64 := none
  deriving DecidableEq, Repr

structure StoreSettings where
  bind : Option String := none
  deriving DecidableEq, Repr

structure CoordinatorSettings where
  store : Option String := none
  pool : Option String := none
  interval : Option UInt64 := none
  pause : Option UInt64 := none
  deriving DecidableEq, Repr

structure MembersSettings where
  store : Option String := none
  pool : Option String := none
  remove : Option String := none
  deriving DecidableEq, Repr

/-- The settings of a pool; what is not given keeps its default. -/
def poolConfig (pool : Option String) (interval pause : Option UInt64) : Pool.Config :=
  let default : Pool.Config := {}
  ⟨pool.getD default.pool, interval.getD default.interval, pause.getD default.pause⟩

namespace BidderSettings

def address (s : BidderSettings) : String := s.bind.getD "0.0.0.0:8080"

def percent (s : BidderSettings) : UInt8 := s.throttle.getD 100

def directory (s : BidderSettings) : String := s.webRoot.getD "web"

def config (s : BidderSettings) : Pool.Config := poolConfig s.pool s.interval s.pause

def flags : List (Flag BidderSettings) := [
  ⟨"--bind", some 'b', Flag.once textValue (·.bind) (fun s v => { s with bind := some v }),
    "address to bind the bidder's HTTP server to"⟩,
  ⟨"--campaigns", some 'c',
    Flag.once textValue (·.campaigns) (fun s v => { s with campaigns := some v }),
    "JSON file with the campaigns to load; none are loaded by default"⟩,
  ⟨"--web-root", none, Flag.once textValue (·.webRoot) (fun s v => { s with webRoot := some v }),
    "directory holding the simulator page and its scripts"⟩,
  ⟨"--name", none, Flag.once textValue (·.name) (fun s v => { s with name := some v }),
    "name this bidder registers under in the pool"⟩,
  ⟨"--store", none, Flag.once textValue (·.store) (fun s v => { s with store := some v }),
    "membership store URL; without one the pool is process-local"⟩,
  ⟨"--throttle", none, Flag.once octetValue (·.throttle) (fun s v => { s with throttle := some v }),
    "percentage of opportunities admitted past the throttle gate"⟩,
  ⟨"--stopped", none, .switch (fun s => { s with stopped := true }), "start with bidding stopped"⟩,
  ⟨"--pool", none, Flag.once textValue (·.pool) (fun s v => { s with pool := some v }),
    "name of the pool's sorted set"⟩,
  ⟨"--interval-ms", none,
    Flag.once wordValue (·.interval) (fun s v => { s with interval := some v }),
    "TTL window in milliseconds; members silent for twice this are swept"⟩,
  ⟨"--pause-ms", none, Flag.once wordValue (·.pause) (fun s v => { s with pause := some v }),
    "milliseconds between heartbeat/sweep passes"⟩]

def description : String :=
  "Arguments for starting a bidder. A bidder answers bid submissions on " ++
    "`/rtb/bids/<exchange>`. With a `--name` it also joins the bidder pool and exits with " ++
    "status 1 as soon as it can no longer heartbeat into the store. start a bidder"

end BidderSettings

namespace StoreSettings

def address (s : StoreSettings) : String := s.bind.getD "0.0.0.0:7379"

def flags : List (Flag StoreSettings) := [
  ⟨"--bind", some 'b', Flag.once textValue (·.bind) (fun s v => { s with bind := some v }),
    "address to bind the store's HTTP server to"⟩]

def description : String := "start the shared membership store"

end StoreSettings

namespace CoordinatorSettings

def config (s : CoordinatorSettings) : Pool.Config := poolConfig s.pool s.interval s.pause

def flags : List (Flag CoordinatorSettings) := [
  ⟨"--store", none, Flag.once textValue (·.store) (fun s v => { s with store := some v }),
    "membership store URL"⟩,
  ⟨"--pool", none, Flag.once textValue (·.pool) (fun s v => { s with pool := some v }),
    "name of the pool's sorted set"⟩,
  ⟨"--interval-ms", none,
    Flag.once wordValue (·.interval) (fun s v => { s with interval := some v }),
    "TTL window in milliseconds"⟩,
  ⟨"--pause-ms", none, Flag.once wordValue (·.pause) (fun s v => { s with pause := some v }),
    "milliseconds between sweep passes"⟩]

def description : String :=
  "Arguments for a coordinator. A coordinator never registers itself; it only sweeps stale " ++
    "members so the pool stays clean even when every bidder is down. run an unnamed pool node " ++
    "that sweeps stale members"

end CoordinatorSettings

namespace MembersSettings

def config (s : MembersSettings) : Pool.Config := poolConfig s.pool none none

def flags : List (Flag MembersSettings) := [
  ⟨"--store", none, Flag.once textValue (·.store) (fun s v => { s with store := some v }),
    "membership store URL"⟩,
  ⟨"--pool", none, Flag.once textValue (·.pool) (fun s v => { s with pool := some v }),
    "name of the pool's sorted set"⟩,
  ⟨"--remove", none, Flag.once textValue (·.remove) (fun s v => { s with remove := some v }),
    "remove this member instead of listing"⟩]

def description : String := "list live pool members as JSON"

end MembersSettings

/-! ## Invocations -/

inductive Invocation where
  | bidder (settings : BidderSettings)
  | store (settings : StoreSettings)
  | coordinator (settings : CoordinatorSettings)
  | members (settings : MembersSettings)
  deriving DecidableEq, Repr

namespace Invocation

def program : String := "rtbedge"

/-- A command by its name and its description, and how its flags are read. -/
def command {σ : Type} (name description : String) (flags : List (Flag σ)) (empty : σ)
    (make : σ → Invocation) : (String × String) × (List String → Outcome Invocation) :=
  let usage := flagUsage (program ++ " " ++ name) description flags
  ((name, description), fun words => (readFlags flags usage false false words empty).map make)

def commands : List ((String × String) × (List String → Outcome Invocation)) := [
  command "bidder" BidderSettings.description BidderSettings.flags {} .bidder,
  command "store" StoreSettings.description StoreSettings.flags {} .store,
  command "coordinator" CoordinatorSettings.description CoordinatorSettings.flags {} .coordinator,
  command "members" MembersSettings.description MembersSettings.flags {} .members]

def usage : String :=
  commandUsage program "rtbedge - real-time bidding edge server" (commands.map Prod.fst)

/-- Reads the words behind the name of the program. -/
def read (words : List String) : Outcome Invocation :=
  readCommand (commands.map (fun (entry, command) => (entry.1, command))) usage false false words

end Invocation

end BidFleet.Command
