/-!
JSON values. An integer and a float are different numbers even when they are
equal as quantities. The members of an object stand in the order in which they
are written; `ofMembers` puts them in the order of their keys, a later member
taking the place of an earlier one with the same key.
-/

namespace BidFleet.Json

/-- A number as it was written: with or without a fraction or exponent. -/
inductive Number where
  | int (n : Int)
  | float (x : Float)

namespace Number

/-- Equality of numbers of one kind; floats compare as quantities. -/
def same : Number → Number → Bool
  | int a, int b => a == b
  | float x, float y => x == y
  | _, _ => false

/-- The quantity, rounded to a float. -/
def toFloat : Number → Float
  | int (.ofNat n) => Float.ofNat n
  | int (.negSucc n) => -Float.ofNat (n + 1)
  | float x => x

end Number

inductive Value where
  | null
  | bool (b : Bool)
  | number (n : Number)
  | string (s : String)
  | array (items : List Value)
  | object (members : List (String × Value))

instance : Inhabited Value := ⟨.null⟩

namespace Value

def int (n : Int) : Value := number (.int n)

def float (x : Float) : Value := number (.float x)

/-- A text, or `null` when there is none. -/
def ofText? : Option String → Value
  | some s => string s
  | none => null

/-- A member put among members ordered by key, in place of one with its key. -/
def insert (key : String) (value : Value) : List (String × Value) → List (String × Value)
  | [] => [(key, value)]
  | (k, v) :: rest =>
    if key = k then (key, value) :: rest
    else if key < k then (key, value) :: (k, v) :: rest
    else (k, v) :: insert key value rest

/-- The object with these members, ordered by key. -/
def ofMembers (members : List (String × Value)) : Value :=
  object (members.foldl (fun sorted m => insert m.1 m.2 sorted) [])

mutual

/-- Equality of values: arrays item by item, objects member by member. -/
def same : Value → Value → Bool
  | null, null => true
  | bool a, bool b => a == b
  | number a, number b => a.same b
  | string a, string b => a == b
  | array a, array b => sameItems a b
  | object a, object b => sameMembers a b
  | _, _ => false

def sameItems : List Value → List Value → Bool
  | [], [] => true
  | a :: as, b :: bs => same a b && sameItems as bs
  | _, _ => false

def sameMembers : List (String × Value) → List (String × Value) → Bool
  | [], [] => true
  | (j, a) :: as, (k, b) :: bs => j == k && same a b && sameMembers as bs
  | _, _ => false

end

def get? (value : Value) (key : String) : Option Value :=
  match value with
  | object members => members.lookup key
  | _ => none

def asText? : Value → Option String
  | string s => some s
  | _ => none

def asArray? : Value → Option (List Value)
  | array items => some items
  | _ => none

def asFloat? : Value → Option Float
  | number n => some n.toFloat
  | _ => none

end Value

end BidFleet.Json
