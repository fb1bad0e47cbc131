import BidFleet.Text.Segments
import BidFleet.Text.Utf8
import BidFleet.Error

/-!
Files and the web root. A path is walked from the top of a file tree: an empty
segment and `.` stay where they are, `..` goes up, any other segment names an
entry of a directory. Only paths that cannot leave the web root are walked for
a request.
-/

namespace BidFleet.Serving

inductive FileTree where
  | file (content : Bytes)
  | directory (entries : List (String × FileTree))

inductive FileFault where
  | notFound
  | notDirectory
  | isDirectory
  | nameTooLong
  | nulInName
  deriving DecidableEq, Repr

namespace FileFault

def text : FileFault → String
  | notFound => "No such file or directory (os error 2)"
  | notDirectory => "Not a directory (os error 20)"
  | isDirectory => "Is a directory (os error 21)"
  | nameTooLong => "File name too long (os error 36)"
  | nulInName => "file name contained an unexpected NUL byte"

def toError (fault : FileFault) : Error := .file fault.text

end FileFault

/-- A path by the segments between its slashes. -/
abbrev Path := List String

namespace Path

def ofText (text : String) : Path := (Text.split '/' text.toList).map String.ofList

def text (path : Path) : String := "/".intercalate path

/-- The longest name of an entry, in octets. -/
def longestName : Nat := 255

/-- The longest path, in octets. -/
def longestPath : Nat := 4095

end Path

namespace FileTree

/-- Walks a path from a directory whose parents are `above`, the nearest first. -/
def walk : Path → FileTree → List FileTree → Except FileFault FileTree
  | [], here, _ => .ok here
  | _ :: _, file _, _ => .error .notDirectory
  | name :: path, directory entries, above =>
    if name = "" ∨ name = "." then walk path (directory entries) above
    else if name = ".." then
      match above with
      | [] => walk path (directory entries) []
      | parent :: above => walk path parent above
    else if name.utf8ByteSize > Path.longestName then .error .nameTooLong
    else
      match entries.lookup name with
      | some next => walk path next (directory entries :: above)
      | none => .error .notFound

def read (tree : FileTree) (path : Path) : Except FileFault Bytes :=
  if path.text = "" then .error .notFound
  else if path.any (fun name => name.contains '\x00') then .error .nulInName
  else if path.text.utf8ByteSize > Path.longestPath then .error .nameTooLong
  else
    match walk path tree [] with
    | .ok (file content) => .ok content
    | .ok (directory _) => .error .isDirectory
    | .error fault => .error fault

/-- Puts a file at a path, with the directories that it needs. -/
def insert (content : Bytes) : Path → FileTree → FileTree
  | [], _ => file content
  | name :: path, directory entries =>
    directory ((name, insert content path ((entries.lookup name).getD (directory []))) ::
      entries.filter (fun e => e.1 != name))
  | name :: path, file _ => directory [(name, insert content path (directory []))]

end FileTree

structure WebRoot where
  path : Path := ["web"]

namespace WebRoot

/-- The web root that a text names. One slash at its end adds nothing, and the empty
text names the working directory. -/
def ofText (text : String) : WebRoot :=
  let path := Path.ofText text
  ⟨if path.getLast? = some "" then path.dropLast else path⟩

def simulatorPage (root : WebRoot) : Path := root.path ++ ["exchange.html"]

/-- Whether a path below the web root cannot lead anywhere else: it is not
empty, does not begin with a slash or with `.`, and never goes up. -/
def plain (rel : Path) : Bool :=
  match rel with
  | [] => false
  | first :: _ => first != "" && first != "." && !rel.contains ".."

/-- The path of a script; one that is not plain is refused. -/
def script (root : WebRoot) (rel : String) : Except Error Path :=
  if plain (Path.ofText rel) then .ok (root.path ++ Path.ofText rel)
  else .error (.invalidRequest ("asset path not allowed: " ++ rel))

end WebRoot

end BidFleet.Serving
