import BidFleet.Command.Line
import BidFleet.Text.Segments

/-!
The help of a command: how it is used, what it is for, and a list of its flags
or commands. In a list the names stand in front of a column of descriptions,
which are broken at blanks to keep the lines short.
-/

namespace BidFleet.Command

/-- Appends words to a row as long as they fit into the width, and goes on with
new rows. -/
def fillRows (width : Nat) (row : String) : List String → List String
  | [] => [row]
  | word :: words =>
    if row.length + 1 + word.length > width then row :: fillRows width word words
    else fillRows width (row ++ " " ++ word) words

/-- The rows of a text that is broken at its blanks. -/
def wrap (width : Nat) (text : String) : List String :=
  match (Text.split ' ' text.toList).map String.ofList with
  | [] => []
  | word :: words => fillRows width word words

def descriptionColumn : Nat := 20

def lineWidth : Nat := 80

def toColumn (text : String) : String :=
  text ++ String.ofList (List.replicate (descriptionColumn - text.length) ' ')

/-- The lines of an entry; a name that reaches into the column has its own. -/
def entryLines (name description : String) : List String :=
  let label := "  " ++ name
  let rows := wrap (lineWidth - descriptionColumn) description
  let indented := rows.map (fun row => toColumn "" ++ row)
  if label.length < descriptionColumn then
    match rows with
    | row :: _ => (toColumn label ++ row) :: indented.tail
    | [] => [label]
  else label :: indented

namespace Flag

variable {σ : Type}

/-- The flag as it stands in the first line of the help. -/
def usage (flag : Flag σ) : String :=
  let called :=
    match flag.short with
    | some c => String.ofList ['-', c]
    | none => flag.name
  match flag.effect with
  | .switch _ => "[" ++ called ++ "]"
  | .value _ =>
    "[" ++ called ++ " <" ++ String.ofList (flag.name.toList.dropWhile (· == '-')) ++ ">]"

/-- The flag as it stands in the list. -/
def label (flag : Flag σ) : String :=
  match flag.short with
  | some c => String.ofList ['-', c] ++ ", " ++ flag.name
  | none => flag.name

end Flag

def listing (title : String) (entries : List (String × String)) : String :=
  title ++ String.join
    ((entries.flatMap (fun (name, description) => entryLines name description)).map ("\n" ++ ·))

def helpEntry : String × String := (", ".intercalate helpWords, "display usage information")

/-- The parts of a help, with empty lines between them. -/
def sections (parts : List String) : String := "\n\n".intercalate parts ++ "\n"

def flagUsage {σ : Type} (command description : String) (flags : List (Flag σ)) : String :=
  sections [" ".intercalate (("Usage: " ++ command) :: flags.map Flag.usage), description,
    listing "Options:" (flags.map (fun f => (f.label, f.description)) ++ [helpEntry])]

def commandUsage (program description : String) (commands : List (String × String)) : String :=
  sections ["Usage: " ++ program ++ " <command> [<args>]", description,
    listing "Options:" [helpEntry], listing "Commands:" commands]

end BidFleet.Command
