/-!
The settings of a pool. Scores and clocks count milliseconds in signed 64-bit
words, and the arithmetic on them is that of the words.
-/

namespace BidFleet.Pool

structure Config where
  /-- The set that holds the members. -/
  pool : String := "bidderspool"
  /-- Members whose last heartbeat is two of these ago are stale. -/
  interval : UInt64 := 30000
  /-- The rest between two passes. -/
  pause : UInt64 := 5000
  deriving DecidableEq, Repr

namespace Config

/-- The score at and below which members are stale at `now`. -/
def staleBefore (c : Config) (now : Int64) : Int64 := now - 2 * c.interval.toInt64

end Config

/-- How far ahead of the own clock the heartbeat of a live member may lie. -/
def listHorizon : Int64 := 100000

inductive Role where
  /-- Sweeps stale members and is no member itself. -/
  | coordinator
  /-- Keeps a record under its name, and sweeps. -/
  | worker (name : String)
  deriving DecidableEq, Repr

namespace Role

/-- A node with a name is a worker. -/
def ofName : Option String → Role
  | none => coordinator
  | some name => worker name

def name? : Role → Option String
  | coordinator => none
  | worker name => some name

def display : Role → String
  | coordinator => "Master"
  | worker name => name

end Role

end BidFleet.Pool
