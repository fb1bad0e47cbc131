import BidFleet.Pool.Node

/-!
Nodes on a common clock. Time moves from one due pass to the next; nodes that
are due at the same instant make their passes in the order in which they began
to rest. Scores are taken from a wall clock that stands still meanwhile.
-/

namespace BidFleet.Pool

/-- A node under the name it is kept by, and the time at which its rest is over. -/
structure Slot where
  key : String
  node : Node
  due : Nat

/-- Nodes in the order in which they began to rest, with the store they share. -/
structure Timeline (σ : Type) where
  now : Nat := 0
  clock : Int64
  slots : List Slot := []
  store : σ

namespace Timeline

variable {σ : Type}

/-- When a rest that begins now is over. -/
def dueAfter (now : Nat) (config : Config) : Nat := now + max config.pause.toNat 1

def find? (t : Timeline σ) (key : String) : Option Slot := t.slots.find? (fun s => s.key == key)

def erase (t : Timeline σ) (key : String) : Timeline σ :=
  { t with slots := t.slots.filter (fun s => s.key != key) }

def join (store : Store σ) (t : Timeline σ) (key : String) (role : Role) (config : Config) :
    Except Error Node × Timeline σ :=
  match Node.join store role config t.clock t.store with
  | (.ok n, s) =>
    let t := { t.erase key with store := s }
    (.ok n, { t with slots := t.slots ++ [⟨key, n, dueAfter t.now config⟩] })
  | (.error e, s) => (.error e, { t.erase key with store := s })

def isResting (slot : Slot) : Bool :=
  match slot.node.phase with
  | .resting => true
  | _ => false

/-- The slot that is due first, the first of equals. -/
def earliest : List Slot → Option Slot
  | [] => none
  | slot :: rest =>
    match earliest rest with
    | some other =>
      if isResting slot && slot.due ≤ other.due then some slot else some other
    | none => if isResting slot then some slot else none

/-- Makes the pass of a slot that is due; the node then rests behind all others. -/
def passSlot (store : Store σ) (t : Timeline σ) (slot : Slot) : Timeline σ :=
  let (n, s) := slot.node.wholePass store t.clock t.store
  let t := { t.erase slot.key with now := slot.due, store := s }
  { t with slots := t.slots ++ [⟨slot.key, n, dueAfter slot.due n.config⟩] }

abbrev Stop (σ : Type) := Timeline σ → Bool

/-- Makes the passes that are due until `target`. Where `stop` holds when all
passes of an instant have been made, time stands still there. -/
def advance (store : Store σ) (stop : Stop σ) (target : Nat) : Nat → Timeline σ → Timeline σ
  | 0, t => t
  | fuel + 1, t =>
    match earliest t.slots with
    | none => if stop t then t else { t with now := target }
    | some slot =>
      if stop t && slot.due > t.now then t
      else if slot.due ≤ target then advance store stop target fuel (t.passSlot store slot)
      else if stop t then t
      else { t with now := target }

/-- More passes than can be due within `ms`: each node rests at least one. -/
def bound (t : Timeline σ) (ms : Nat) : Nat := t.slots.length * (ms + 1) + 1

def sleep (store : Store σ) (t : Timeline σ) (ms : Nat) : Timeline σ :=
  advance store (fun _ => false) (t.now + ms) (t.bound ms) t

def reason? (t : Timeline σ) (key : String) : Option String :=
  (t.find? key).bind (fun s => s.node.state.reason?)

/-- Lets time pass until a node has terminated, and gives its reason. -/
def awaitEnd (store : Store σ) (t : Timeline σ) (key : String) (ms : Nat) :
    Option String × Timeline σ :=
  let ended : Stop σ := fun t => (t.reason? key).isSome
  if ended t then (t.reason? key, t)
  else
    let t := advance store ended (t.now + ms) (t.bound ms) t
    (t.reason? key, t)

def leave (store : Store σ) (t : Timeline σ) (slot : Slot) (removeSelf : Bool) :
    Except Error Unit × Timeline σ :=
  let (r, s) := slot.node.leave store removeSelf t.store
  (r, { t.erase slot.key with store := s })

end Timeline

end BidFleet.Pool
