import BidFleet.Http.Address
import BidFleet.Http.Domain
import BidFleet.Text.Percent

/-!
URLs. A URL is read the way browsers do: slashes may be missing, doubled or
backward behind the scheme, tabs and line ends do not count, dots in the path
are resolved, and what may not stand in a part is percent-encoded. A path is
kept by its segments, so that segments can be added to it.
-/

namespace BidFleet.Http

inductive UrlFault where
  | relative
  | emptyHost
  | invalidPort
  | invalidIpv4
  | invalidIpv6
  | invalidDomain
  | invalidHostCharacter
  deriving DecidableEq, Repr

namespace UrlFault

def text : UrlFault → String
  | relative => "relative URL without a base"
  | emptyHost => "empty host"
  | invalidPort => "invalid port number"
  | invalidIpv4 => "invalid IPv4 address"
  | invalidIpv6 => "invalid IPv6 address"
  | invalidDomain => "invalid international domain name"
  | invalidHostCharacter => "invalid domain character"

end UrlFault

structure Url where
  scheme : String
  /-- The user before the host and the password behind the user, percent-encoded. -/
  user : String := ""
  password : String := ""
  host : String
  port : Option Nat := none
  /-- The segments behind the slashes of the path, percent-encoded. -/
  path : List String
  query : Option String := none
  fragment : Option String := none
  deriving DecidableEq, Repr

inductive UrlForm where
  /-- A URL of a scheme that is resolved by its host and path. -/
  | hosted (url : Url)
  /-- A URL of another scheme, whose form does not matter here. -/
  | other (scheme : String)

namespace Url

/-- Octets that are escaped everywhere: controls and all beyond ASCII. -/
def outside (b : UInt8) : Bool := b < 32 || b ≥ 127

/-- Whether an octet is one of these characters. -/
def among (chars : String) (b : UInt8) : Bool := chars.toList.any (fun c => c.toNat == b.toNat)

/-- Octets that are escaped in a path. -/
def inPath (b : UInt8) : Bool := outside b || among " \"#<>?`\x7b\x7d" b

/-- Octets that are escaped in a segment that is added to a path. -/
def inSegment (b : UInt8) : Bool := inPath b || among "/%\\" b

/-- Octets that are escaped in a query. -/
def inQuery (b : UInt8) : Bool := outside b || among " \"#<>'" b

/-- Octets that are escaped in a fragment. -/
def inFragment (b : UInt8) : Bool := outside b || among " \"<>`" b

/-- Octets that are escaped in a user or password. -/
def inUser (b : UInt8) : Bool := inPath b || among "/:;=@[\\]^|" b

/-- A part of a URL with the octets that `reserved` holds of escaped. -/
def escape (reserved : UInt8 → Bool) (text : List Char) : String :=
  String.ofList ((Percent.encode reserved (Utf8.encodeChars text)).map
    (fun b => Char.ofNat b.toNat))

/-- Characters that do not count in a URL. -/
def ignored (c : Char) : Bool := c = '\t' || c = '\n' || c = '\r'

/-! ### Paths -/

/-- Whether a segment stays where it is. -/
def isDot (segment : String) : Bool := segment = "." || segment.toLower = "%2e"

def isDoubleDot (segment : String) : Bool :=
  segment = ".." || segment.toLower = ".%2e" || segment.toLower = "%2e." ||
    segment.toLower = "%2e%2e"

/-- Whether a segment names a drive: a letter and a colon or bar. -/
def isDrive (segment : String) : Bool :=
  match segment.toList with
  | [letter, mark] => letter.isAlpha && (mark = ':' || mark = '|')
  | _ => false

/-- The path that a double dot leads to; it does not lead out of a drive. -/
def parent (path : List String) : List String :=
  if path.getLast?.any isDrive then path else path.dropLast

/-- The path that segments lead to from `path`. A dot at the end leaves an empty
segment there. -/
def resolve (path : List String) : List String → List String
  | [] => path
  | [last] =>
    if isDoubleDot last then parent path ++ [""]
    else if isDot last then path ++ [""]
    else path ++ [last]
  | segment :: rest =>
    if isDoubleDot segment then resolve (parent path) rest
    else if isDot segment then resolve path rest
    else resolve (path ++ [segment]) rest

/-- The pieces between forward and backward slashes. -/
def pieces (text : List Char) : List (List Char) :=
  Text.split '/' (text.map (fun c => if c = '\\' then '/' else c))

def readPath (text : List Char) : List String :=
  match pieces text with
  | [] :: first :: rest => resolve [] ((first :: rest).map (escape inPath))
  | parts => resolve [] (parts.map (escape inPath))

def atRoot (url : Url) : Bool := url.path == [""]

/-- The URL without an empty segment at the end of its path. -/
def popIfEmpty (url : Url) : Url :=
  if url.atRoot then url
  else if url.path.getLast? = some "" then { url with path := url.path.dropLast }
  else url

/-- The URL with a segment added behind its path. A dot or double dot is left
out; one that comes about by what does not count still moves. -/
def push (url : Url) (segment : String) : Url :=
  if segment = "." ∨ segment = ".." then url
  else
    let counted := segment.toList.filter (fun c => !ignored c)
    let path := if url.atRoot then [] else url.path
    { url with path := resolve path [escape inSegment counted] }

/-- The URL with a pair added to its query. -/
def addQuery (url : Url) (name value : String) : Url :=
  let pair := name ++ "=" ++ value
  match url.query with
  | some query => { url with query := some (if query.isEmpty then pair else query ++ "&" ++ pair) }
  | none => { url with query := some pair }

/-! ### Hosts -/

/-- A number of a host: hexadecimal behind `0x`, octal behind `0`. -/
def readHostNumber? (text : List Char) : Option Nat :=
  let inBase (base : Nat) (digits : List Char) : Option Nat :=
    digits.foldl (fun acc? c =>
      match acc?, Text.hexDigit? c with
      | some acc, some d => if d < base then some (acc * base + d) else none
      | _, _ => none) (some 0)
  match text with
  | [] => none
  | '0' :: 'x' :: digits | '0' :: 'X' :: digits => inBase 16 digits
  | '0' :: digits => inBase 8 digits
  | digits => inBase 10 digits

/-- The labels of a host, without an empty one at the end. -/
def labels (host : List Char) : List (List Char) :=
  let parts := Text.split '.' host
  if parts.length > 1 ∧ parts.getLast? = some [] then parts.dropLast else parts

/-- Whether the last label of a host is a number. -/
def endsInNumber (host : List Char) : Bool :=
  match (labels host).getLast? with
  | none => false
  | some label =>
    (!label.isEmpty && label.all Char.isDigit) ||
      (match label with
        | '0' :: 'x' :: digits | '0' :: 'X' :: digits =>
          digits.all (fun c => (Text.hexDigit? c).isSome)
        | _ => false)

/-- An address of four octets whose last number may stand for several of them. -/
def readNumbers? (host : List Char) : Option Ipv4 :=
  match (labels host).mapM readHostNumber? with
  | none => none
  | some numbers =>
    match numbers.reverse with
    | [] => none
    | last :: front =>
      let front := front.reverse
      if front.length > 3 ∨ front.any (· > 255) ∨ last ≥ Nat.pow 256 (4 - front.length) then none
      else
        let value := front.foldl (fun n x => n * 256 + x) 0 * Nat.pow 256 (4 - front.length) + last
        some ⟨[value / 16777216 % 256, value / 65536 % 256, value / 256 % 256, value % 256]⟩

/-- The host of a scheme with domains. -/
def readDomain (host : List Char) : Except UrlFault String :=
  match Utf8.decode? (Percent.decode (Utf8.encodeChars host)) with
  | none => .error .invalidDomain
  | some name =>
    match Domain.plain? name.toList with
    | none => .error .invalidDomain
    | some name =>
      if name.isEmpty then .error .emptyHost
      else if endsInNumber name then
        match readNumbers? name with
        | some ip => .ok (String.ofList ip.text)
        | none => .error .invalidIpv4
      else .ok (String.ofList name)

/-- Whether a character may not stand in a host that is no domain. -/
def forbidden (c : Char) : Bool := c.toNat == 0 || Domain.isDelimiter c

/-- The host of a URL. Where there are domains it may not be empty. -/
def readHost (domains : Bool) (host : List Char) : Except UrlFault String :=
  match host with
  | '[' :: rest =>
    if rest.getLast? = some ']' then
      match Ipv6.read? rest.dropLast with
      | some ip => .ok (String.ofList ('[' :: ip.groupText ++ [']']))
      | none => .error .invalidIpv6
    else .error .invalidIpv6
  | _ =>
    if domains then
      if host.isEmpty then .error .emptyHost else readDomain host
    else if host.any forbidden then .error .invalidHostCharacter
    else .ok (escape outside host)

/-- The host part and what follows its colon; a colon in brackets does not count. -/
def splitPort (inBrackets : Bool) : List Char → List Char × Option (List Char)
  | [] => ([], none)
  | c :: cs =>
    if c = ':' ∧ !inBrackets then ([], some cs)
    else
      let inside := if c = '[' then true else if c = ']' then false else inBrackets
      let (host, port) := splitPort inside cs
      (c :: host, port)

/-- A port, up to a backward slash; the default one and a missing one are not kept. -/
def readPort (standard : Option Nat) (text : List Char) : Except UrlFault (Option Nat) :=
  let digits := text.takeWhile (· != '\\')
  if digits.isEmpty then .ok none
  else
    match SocketAddress.readPort? digits with
    | some port => .ok (if some port = standard then none else some port)
    | none => .error .invalidPort

/-! ### Whole URLs -/

/-- The scheme of a URL, in lower case, and what follows its colon. -/
def readScheme? (text : List Char) : Option (String × List Char) :=
  match text with
  | [] => none
  | first :: _ =>
    if first.isAlpha then
      let scheme := text.takeWhile (fun c => c.isAlphanum || c = '+' || c = '-' || c = '.')
      match text.dropWhile (fun c => c.isAlphanum || c = '+' || c = '-' || c = '.') with
      | ':' :: rest => some ((String.ofList scheme).toLower, rest)
      | _ => none
    else none

/-- The port that is meant when none is given, for schemes with domains. -/
def standardPort? (scheme : String) : Option Nat :=
  if scheme = "http" ∨ scheme = "ws" then some 80
  else if scheme = "https" ∨ scheme = "wss" then some 443
  else if scheme = "ftp" then some 21
  else none

/-- What stands before the last `@` of an authority, if there is one, and the rest. -/
def splitUser (authority : List Char) : Option (List Char) × List Char :=
  let server := (authority.reverse.takeWhile (· != '@')).reverse
  if server.length < authority.length then
    (some (authority.take (authority.length - server.length - 1)), server)
  else (none, server)

/-- Whether something is asked of a host that is not there: a user, a port, or
a path behind an empty user. A user that is but a colon counts for nothing. -/
def missesHost (user port : Option (List Char)) (rest : List Char) : Bool :=
  match user with
  | none => port.isSome
  | some [] => port.isSome || !rest.isEmpty
  | some user => port.isSome || user != [':']

/-- The parts of a URL put together; `rest` is what stands behind its authority. -/
def assemble (scheme : String) (user : List Char) (host : String) (port : Option Nat)
    (rest : List Char) : Url :=
  let beforeFragment := Text.before '#' rest
  { scheme := scheme
    user := escape inUser (Text.before ':' user)
    password := escape inUser ((Text.after? ':' user).getD [])
    host := host
    port := port
    path := readPath (Text.before '?' beforeFragment)
    query := (Text.after? '?' beforeFragment).map (escape inQuery)
    fragment := (Text.after? '#' rest).map (escape inFragment) }

/-- A URL from behind the slashes of its scheme. -/
def readAuthority (scheme : String) (domains : Bool) (text : List Char) : Except UrlFault Url := do
  let ends (c : Char) : Bool := c = '/' || c = '?' || c = '#' || (domains && c = '\\')
  let rest := text.dropWhile (fun c => !ends c)
  let (user, server) := splitUser (text.takeWhile (fun c => !ends c))
  let (host, port) := splitPort false server
  let host ← readHost domains host
  let portText := port.getD []
  if host.isEmpty ∧ missesHost user port rest then .error .emptyHost
  else
    let port ← readPort (standardPort? scheme) portText
    return assemble scheme (user.getD []) host port rest

/-- Reads the host of a file, which stands behind two slashes and may be missing; a
drive is no host. -/
def readFileHost (text : List Char) : Except UrlFault (Option String) :=
  let isSlash (c : Char) : Bool := c = '/' || c = '\\'
  match text with
  | first :: second :: rest =>
    let host := rest.takeWhile (fun c => !(isSlash c || c = '?' || c = '#'))
    if !(isSlash first && isSlash second) || host.isEmpty || isDrive (String.ofList host) then
      .ok none
    else (readHost true host).map some
  | _ => .ok none

/-- A text without the blanks and controls around it and what does not count. -/
def trim (text : String) : List Char :=
  let blank (c : Char) : Bool := c.toNat ≤ 32
  let front := text.toList.dropWhile blank
  (front.reverse.dropWhile blank).reverse.filter (fun c => !ignored c)

def parse (text : String) : Except UrlFault UrlForm :=
  match readScheme? (trim text) with
  | none => .error .relative
  | some (scheme, rest) =>
    if (standardPort? scheme).isSome then
      (readAuthority scheme true (rest.dropWhile (fun c => c = '/' || c = '\\'))).map .hosted
    else if scheme = "file" then (readFileHost rest).map (fun _ => .other scheme)
    else
      match rest with
      | '/' :: '/' :: authority =>
        (readAuthority scheme false authority).map (fun _ => .other scheme)
      | _ => .ok (.other scheme)

def credentials (url : Url) : String :=
  let password := if url.password.isEmpty then "" else ":" ++ url.password
  if url.user.isEmpty && url.password.isEmpty then "" else url.user ++ password ++ "@"

def text (url : Url) : String :=
  url.scheme ++ "://" ++ url.credentials ++ url.host ++
    (match url.port with
      | some port => ":" ++ toString port
      | none => "") ++
    "/" ++ "/".intercalate url.path ++
    (match url.query with
      | some query => "?" ++ query
      | none => "") ++
    (match url.fragment with
      | some fragment => "#" ++ fragment
      | none => "")

/-- What a request for a URL names as its target. -/
def target (url : Url) : String :=
  "/" ++ "/".intercalate url.path ++
    (match url.query with
      | some query => "?" ++ query
      | none => "")

/-- The URL that a request is made for, which names no user; one who cannot be read
as text stays. -/
def withoutUser (url : Url) : Url :=
  let readable (part : String) : Bool :=
    (Utf8.decode? (Percent.decode (Utf8.encode part))).isSome
  if readable url.user && (!url.user.isEmpty || readable url.password) then
    { url with user := "", password := "" }
  else url

/-- Whether a request can be made for a URL: it fits into 65534 octets, and its host
holds none of the characters that a domain may have and a request may not name. -/
def isRequestable (url : Url) : Bool :=
  url.text.utf8ByteSize ≤ 65534 && !url.host.toList.any (fun c => "\"`\x7b\x7d".toList.contains c)

/-- Where a request for a URL is sent. -/
def authority (url : Url) : String :=
  url.host ++
    (match url.port with
      | some port => ":" ++ toString port
      | none => "")

end Url

end BidFleet.Http
