import BidFleet.Pool.Store

/-!
Sets of members with scores, and the store that keeps them in memory. A set
holds a name at most once. Its members are listed by score, and those with the
same score by name.
-/

namespace BidFleet.Pool

/-- A name and its score. -/
abbrev Member := String × Int64

structure Members where
  entries : List Member
  distinct : (entries.map Prod.fst).Nodup

namespace Members

def empty : Members := ⟨[], by simp⟩

instance : Inhabited Members := ⟨empty⟩

def filter (m : Members) (keep : Member → Bool) : Members :=
  ⟨m.entries.filter keep, m.distinct.sublist (List.filter_sublist.map _)⟩

def erase (m : Members) (name : String) : Members := m.filter (fun e => e.1 != name)

theorem not_mem_erase (m : Members) (name : String) :
    name ∉ (m.erase name).entries.map Prod.fst := by
  simp [erase, filter]

/-- The members with `name` scored `score`. -/
def upsert (m : Members) (name : String) (score : Int64) : Members :=
  ⟨(name, score) :: (m.erase name).entries,
    List.nodup_cons.mpr ⟨m.not_mem_erase name, (m.erase name).distinct⟩⟩

def score? (m : Members) (name : String) : Option Int64 := m.entries.lookup name

def size (m : Members) : Nat := m.entries.length

/-- Whether a member has a score from `low` to `high`. -/
def within (low high : Int64) (e : Member) : Bool := low ≤ e.2 && e.2 ≤ high

/-- Whether `a` is listed before `b`. -/
def precedes (a b : Member) : Bool := a.2 < b.2 || (a.2 == b.2 && a.1 < b.1)

/-- Puts a member where it belongs in a list in order. -/
def place (e : Member) : List Member → List Member
  | [] => [e]
  | f :: rest => if precedes f e then f :: place e rest else e :: f :: rest

def ranked (entries : List Member) : List Member := entries.foldr place []

/-- The names of the members scored from `low` to `high`, in order. -/
def range (m : Members) (low high : Int64) : List String :=
  (ranked (m.filter (within low high)).entries).map Prod.fst

def removeRange (m : Members) (low high : Int64) : Members :=
  m.filter (fun e => !within low high e)

end Members

/-- Sets by name. A set that was written stays, though it may be empty. -/
structure MemoryStore where
  sets : List (String × Members) := []

namespace MemoryStore

/-- The members of a set; a set that was never written has none. -/
def members (s : MemoryStore) (set : String) : Members := (s.sets.lookup set).getD .empty

/-- Whether a set was ever written. -/
def written (s : MemoryStore) (set : String) : Bool := (s.sets.lookup set).isSome

def put (set : String) (members : Members) : List (String × Members) → List (String × Members)
  | [] => [(set, members)]
  | (name, m) :: rest =>
    if name = set then (name, members) :: rest else (name, m) :: put set members rest

/-- Changes a set that was written, and leaves any other as it is. -/
def update (s : MemoryStore) (set : String) (f : Members → Members) : MemoryStore :=
  if s.written set then ⟨put set (f (s.members set)) s.sets⟩ else s

/-- Every call succeeds, and is answered from the named set alone. -/
def store : Store MemoryStore
  | .upsert set member score, s =>
    (.ok (), ⟨put set ((s.members set).upsert member score) s.sets⟩)
  | .range set low high, s => (.ok ((s.members set).range low high), s)
  | .removeRange set low high, s =>
    (.ok ((s.members set).size - ((s.members set).removeRange low high).size),
      s.update set (·.removeRange low high))
  | .remove set member, s =>
    (.ok ((s.members set).score? member).isSome, s.update set (·.erase member))

/-- The store after putting members into sets one after the other. -/
def ofList (members : List (String × Member)) : MemoryStore :=
  members.foldl (fun s (set, name, score) => (store (.upsert set name score) s).2) {}

end MemoryStore

end BidFleet.Pool
