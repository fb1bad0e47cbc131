import BidFleet.Task
import BidFleet.Error

/-!
The membership store, seen from its users. A store keeps sets of members with
scores and answers four calls, each at once and as a whole; any call may fail.
A program that uses a store is a task that asks these calls.
-/

namespace BidFleet.Pool

inductive Call where
  /-- Puts a member into a set, or gives it a new score. -/
  | upsert (set member : String) (score : Int64)
  /-- Names the members with scores from `low` to `high`, by score and then name. -/
  | range (set : String) (low high : Int64)
  /-- Removes the members with scores from `low` to `high` and counts them. -/
  | removeRange (set : String) (low high : Int64)
  /-- Removes one member and says whether it was there. -/
  | remove (set member : String)
  deriving DecidableEq, Repr

namespace Call

abbrev Result : Call → Type
  | upsert .. => Unit
  | range .. => List String
  | removeRange .. => Nat
  | remove .. => Bool

def set : Call → String
  | upsert set .. | range set .. | removeRange set .. | remove set .. => set

end Call

/-- The calls of a store; an answer is a result or an error. -/
abbrev storeCalls : Interface := ⟨Call, fun c => Except Error c.Result⟩

abbrev Store (σ : Type) := Handler storeCalls σ

/-- Makes a call and goes on with its result; an error is the end of the task. -/
def call {α : Type} (c : Call) (next : c.Result → Task storeCalls (Except Error α)) :
    Task storeCalls (Except Error α) :=
  .ask c (fun
    | .ok r => next r
    | .error e => .done (.error e))

/-- One call by itself. -/
def callOnce (c : Call) : Task storeCalls (Except Error c.Result) := .ask c .done

/-- A store that answers `remaining` calls like another one and then fails every
call, changing nothing. -/
structure Failing (σ : Type) where
  inner : σ
  /-- The number of calls that still succeed; `none` when all do. -/
  remaining : Option Nat
  error : Error

def Failing.store {σ : Type} (store : Store σ) : Store (Failing σ) := fun c s =>
  match s.remaining with
  | some 0 => (.error s.error, s)
  | some (n + 1) =>
    let (r, inner) := store c s.inner
    (r, { s with inner := inner, remaining := some n })
  | none =>
    let (r, inner) := store c s.inner
    (r, { s with inner := inner })

/-- A call that was made and whether it succeeded. -/
structure Entry where
  call : Call
  succeeded : Bool
  deriving DecidableEq, Repr

/-- A store that keeps a journal of its calls, the latest last. -/
structure Journaled (σ : Type) where
  inner : σ
  journal : List Entry

def Journaled.store {σ : Type} (store : Store σ) : Store (Journaled σ) := fun c s =>
  let (r, inner) := store c s.inner
  (r, ⟨inner, s.journal ++ [⟨c, r.isOk⟩]⟩)

end BidFleet.Pool
