import BidFleet.Json.Numeral
import BidFleet.Json.Text

/-!
Reading JSON. A reader of values is given the number of arrays and objects that
may still be opened around one another, and recursion is on that number. Arrays
and objects are read by `items` and `members`, which take the reader of what
they hold. `skipValue` passes over a value that nobody reads; it keeps the open
brackets in a list, so that there any depth is accepted.
-/

namespace BidFleet.Json

/-- How many arrays and objects may be open at once. -/
def depthLimit : Nat := 127

/-- The rest of a word whose first letter has been seen. -/
def readWord : List Char → Bytes → Except Fault Bytes
  | [], bytes => .ok bytes
  | _ :: _, [] => failAt .endOfValue []
  | c :: cs, b :: bs => if b.toNat = c.toNat then readWord cs bs else failAt .wordWanted bs

/-- Whether an array goes on, from where an item or its end may stand. -/
def moreItems (first : Bool) (bytes : Bytes) : Except Fault (Bool × Bytes) :=
  match skipBlanks bytes with
  | [] => failAt .endOfList []
  | b :: rest =>
    if b = 93 then .ok (false, b :: rest)
    else if first then .ok (true, b :: rest)
    else if b = 44 then
      match skipBlanks rest with
      | [] => failAt .endOfValue []
      | c :: rest => if c = 93 then failAt .trailingComma rest else .ok (true, c :: rest)
    else failAt .commaOrListEndWanted rest

/-- Whether an object goes on, from where a key or its end may stand. When it
does, the octets begin with the quote of the key. -/
def moreMembers (first : Bool) (bytes : Bytes) : Except Fault (Bool × Bytes) :=
  match skipBlanks bytes with
  | [] => failAt .endOfObject []
  | b :: rest =>
    if b = 125 then .ok (false, b :: rest)
    else if first then if b = 34 then .ok (true, b :: rest) else failAt .keyWanted rest
    else if b = 44 then
      match skipBlanks rest with
      | [] => failAt .endOfValue []
      | c :: rest =>
        if c = 34 then .ok (true, c :: rest)
        else if c = 125 then failAt .trailingComma rest
        else failAt .keyWanted rest
    else failAt .commaOrObjectEndWanted rest

def readColon (bytes : Bytes) : Except Fault Bytes :=
  match skipBlanks bytes with
  | [] => failAt .endOfObject []
  | b :: rest => if b = 58 then .ok rest else failAt .colonWanted rest

/-- The items of an array and its end, from behind its bracket. -/
def items {α : Type} (item : Reader α) : Nat → Bool → Reader (List α)
  | 0, _, bytes => failAt .endOfList bytes
  | fuel + 1, first, bytes =>
    match moreItems first bytes with
    | .error fault => .error fault
    | .ok (false, rest) => .ok ([], rest.tail)
    | .ok (true, rest) => do
      let (a, rest) ← item rest
      let (more, rest) ← items item fuel false rest
      .ok (a :: more, rest)

/-- The members of an object and its end, from behind its brace. -/
def members {α : Type} (item : Reader α) : Nat → Bool → Reader (List (String × α))
  | 0, _, bytes => failAt .endOfObject bytes
  | fuel + 1, first, bytes =>
    match moreMembers first bytes with
    | .error fault => .error fault
    | .ok (false, rest) => .ok ([], rest.tail)
    | .ok (true, rest) => do
      let (key, rest) ← readText rest.tail
      let rest ← readColon rest
      let (a, rest) ← item rest
      let (more, rest) ← members item fuel false rest
      .ok ((key, a) :: more, rest)

/-- A value whose arrays and objects are read by the given readers. -/
def readValueWith (list : Reader Value) (object : Reader Value) : Reader Value := fun bytes =>
  match skipBlanks bytes with
  | [] => failAt .endOfValue []
  | b :: rest =>
    match Char.ofNat b.toNat with
    | 'n' => (readWord "ull".toList rest).map (fun rest => (.null, rest))
    | 't' => (readWord "rue".toList rest).map (fun rest => (.bool true, rest))
    | 'f' => (readWord "alse".toList rest).map (fun rest => (.bool false, rest))
    | '"' => (readText rest).map (fun (s, rest) => (.string s, rest))
    | '[' => list rest
    | '{' => object rest
    | c =>
      if c = '-' ∨ c.isDigit then (readNumber (b :: rest)).map (fun (n, rest) => (.number n, rest))
      else failAt .valueWanted rest

/-- A value with at most `depth` arrays and objects around one another. -/
def readValue : Nat → Reader Value
  | 0 => readValueWith (failAt .tooDeep) (failAt .tooDeep)
  | depth + 1 =>
    readValueWith
      (fun bytes => (items (readValue depth) (bytes.length + 1) true bytes).map
        (fun (values, rest) => (.array values, rest)))
      (fun bytes => (members (readValue depth) (bytes.length + 1) true bytes).map
        (fun (values, rest) => (Value.ofMembers values, rest)))

/-- Nothing but blanks may follow. -/
def readEnd (bytes : Bytes) : Except Fault Unit :=
  match skipBlanks bytes with
  | [] => .ok ()
  | _ :: rest => failAt .trailingCharacters rest

/-- A bracket that is open while a value is passed over. -/
inductive Bracket where
  | list
  | object

/-- What has to be done next while a value is passed over. -/
inductive Skipping where
  | value
  | inside (first : Bool)

/-- Passes over a key, its quote being the next octet, and the colon behind it. -/
def skipKey (bytes : Bytes) : Except Fault Bytes :=
  match skipBlanks bytes with
  | [] => failAt .endOfObject []
  | b :: rest =>
    if b = 34 then
      match skipText rest with
      | .ok rest => readColon rest
      | .error fault => .error fault
    else failAt .keyWanted rest

/-- Passes over a value that is no array and no object. -/
def skipScalar (b : UInt8) (rest : Bytes) : Except Fault Bytes :=
  match Char.ofNat b.toNat with
  | 'n' => readWord "ull".toList rest
  | 't' => readWord "rue".toList rest
  | 'f' => readWord "alse".toList rest
  | '"' => skipText rest
  | '-' => skipMagnitude rest
  | c => if c.isDigit then skipMagnitude (b :: rest) else failAt .valueWanted rest

/-- Passes over what is left of a value inside the open brackets. -/
def skipOpen : Nat → Skipping → List Bracket → Bytes → Except Fault Bytes
  | 0, _, _, bytes => failAt .endOfValue bytes
  | fuel + 1, .value, brackets, bytes =>
    match skipBlanks bytes with
    | [] => failAt .endOfValue []
    | b :: rest =>
      if b = 91 then skipOpen fuel (.inside true) (.list :: brackets) rest
      else if b = 123 then skipOpen fuel (.inside true) (.object :: brackets) rest
      else
        match skipScalar b rest with
        | .ok rest => skipOpen fuel (.inside false) brackets rest
        | .error fault => .error fault
  | _ + 1, .inside _, [], bytes => .ok bytes
  | fuel + 1, .inside first, .list :: brackets, bytes =>
    match skipBlanks bytes with
    | [] => failAt .endOfList []
    | b :: rest =>
      if b = 93 then skipOpen fuel (.inside false) brackets rest
      else if first then skipOpen fuel .value (.list :: brackets) (b :: rest)
      else if b = 44 then skipOpen fuel .value (.list :: brackets) rest
      else failAt .commaOrListEndWanted rest
  | fuel + 1, .inside first, .object :: brackets, bytes =>
    match skipBlanks bytes with
    | [] => failAt .endOfObject []
    | b :: rest =>
      if b = 125 then skipOpen fuel (.inside false) brackets rest
      else if first ∨ b = 44 then
        match skipKey (if first then b :: rest else rest) with
        | .ok rest => skipOpen fuel .value (.object :: brackets) rest
        | .error fault => .error fault
      else failAt .commaOrObjectEndWanted rest

/-- What follows a value that nobody reads. Every other step takes an octet. -/
def skipValue (bytes : Bytes) : Except Fault Bytes :=
  skipOpen (2 * bytes.length + 2) .value [] bytes

def parse (input : Bytes) : Except Fault Value := do
  let (value, rest) ← readValue depthLimit input
  readEnd rest
  return value

end BidFleet.Json
