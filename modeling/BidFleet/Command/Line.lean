/-!
Command lines. A line is a list of words. A command takes flags: a switch stands
by itself, any other flag takes the word behind it as its value, whatever that
word looks like. The word `--` ends the flags. `--help` asks for the help of a
command; no flag may follow it.
-/

namespace BidFleet.Command

inductive Refusal where
  | unrecognized (word : String)
  | noValue (flag : String)
  | badValue (flag value why : String)
  | flagAfterHelp
  | noCommand (commands : List String)
  deriving DecidableEq, Repr

namespace Refusal

def text : Refusal → String
  | unrecognized word => "Unrecognized argument: " ++ word ++ "\n"
  | noValue flag => "No value provided for option '" ++ flag ++ "'.\n"
  | badValue flag value why =>
    "Error parsing option '" ++ flag ++ "' with value '" ++ value ++ "': " ++ why ++ "\n"
  | flagAfterHelp => "Trailing arguments are not allowed after `help`."
  | noCommand commands =>
    "One of the following subcommands must be present:\n    help\n" ++
      String.join (commands.map (fun name => "    " ++ name ++ "\n"))

end Refusal

inductive Outcome (α : Type) where
  | settled (a : α)
  | help (usage : String)
  | refused (why : Refusal)

namespace Outcome

def map {α β : Type} (f : α → β) : Outcome α → Outcome β
  | settled a => settled (f a)
  | help usage => help usage
  | refused why => refused why

end Outcome

/-- How a flag changes the settings of a command. -/
inductive Effect (σ : Type) where
  | switch (turnOn : σ → σ)
  /-- Takes a value; the error says why it is refused. -/
  | value (assign : String → σ → Except String σ)

structure Flag (σ : Type) where
  name : String
  short : Option Char := none
  effect : Effect σ
  description : String

namespace Flag

variable {σ α : Type}

def matchesWord (flag : Flag σ) (word : String) : Bool :=
  word == flag.name || flag.short.any (fun c => word == String.ofList ['-', c])

/-- The effect of a flag that gives one field its value, once. -/
def once (read : String → Except String α) (get : σ → Option α) (put : σ → α → σ) : Effect σ :=
  .value (fun text s =>
    match get s with
    | some _ => .error "duplicate values provided"
    | none => (read text).map (put s))

end Flag

def helpWords : List String := ["--help", "help"]

/-- The word that ends the flags. -/
def endOfFlags : String := "--"

inductive Word where
  | help
  | endOfFlags
  | flag
  | plain
  deriving DecidableEq, Repr

/-- How a word is meant; behind the end of the flags every word is plain. -/
def Word.classify (ended : Bool) (word : String) : Word :=
  if ended then .plain
  else if helpWords.contains word then .help
  else if word == Command.endOfFlags then .endOfFlags
  else if word.toList.head? == some '-' then .flag
  else .plain

/-- Reads the flags of a command. `help` says whether help has been asked for,
`ended` whether the flags have ended. -/
def readFlags {σ : Type} (flags : List (Flag σ)) (usage : String) (help ended : Bool) :
    List String → σ → Outcome σ
  | [], s => if help then .help usage else .settled s
  | word :: rest, s =>
    match Word.classify ended word with
    | .help => readFlags flags usage true ended rest s
    | .endOfFlags => readFlags flags usage help true rest s
    | .plain => .refused (.unrecognized word)
    | .flag =>
      if help then .refused .flagAfterHelp
      else
        match flags.find? (fun f => f.matchesWord word) with
        | none => .refused (.unrecognized word)
        | some flag =>
          match flag.effect, rest with
          | .switch turnOn, rest => readFlags flags usage help ended rest (turnOn s)
          | .value _, [] => .refused (.noValue word)
          | .value assign, value :: rest =>
            match assign value s with
            | .ok s => readFlags flags usage help ended rest s
            | .error why => .refused (.badValue word value why)

/-- Reads up to the name of a command and hands it what follows; a help asked
for before the name is asked of the command. -/
def readCommand {α : Type} (commands : List (String × (List String → Outcome α))) (usage : String)
    (help ended : Bool) : List String → Outcome α
  | [] => if help then .help usage else .refused (.noCommand (commands.map Prod.fst))
  | word :: rest =>
    match Word.classify ended word with
    | .help => readCommand commands usage true ended rest
    | .endOfFlags => readCommand commands usage help true rest
    | .flag => .refused (if help then .flagAfterHelp else .unrecognized word)
    | .plain =>
      match commands.lookup word with
      | some command => command (if help then "help" :: rest else rest)
      | none => .refused (.unrecognized word)

end BidFleet.Command
