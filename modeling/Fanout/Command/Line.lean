import Fanout.Inspect
import Fanout.Shuffle.Run
import Fanout.Text.Decimal

/-!
# The command line

A command line names one command. Options have a long name, most a short one as well; a value
follows as the next word, behind an equals sign, or right behind the short name. Each option is
given at most once; only those that hold for all commands may stand both before and behind the
command, where the later one counts.
-/

namespace Fanout

inductive Command where
  | run (args : RunArgs)
  | inspect (args : InspectArgs)
  deriving DecidableEq

structure Invocation where
  command : Command
  config : Option String
  logLevel : Option String
  deriving DecidableEq

/-- What a command line asks for. -/
inductive Request where
  | invocation (i : Invocation)
  | help
  | version
  | misuse
  deriving DecidableEq

/-- The options with a value. -/
inductive OptionName where
  | config
  | logLevel
  | supersteps
  | vertices
  | channels
  | checkpointInterval
  | dir
  | dataset
  deriving DecidableEq

/-- Which options are known where. -/
inductive Place where
  | top
  | run
  | inspect
  deriving DecidableEq

namespace CommandLine

/-- The options that hold for all commands, with their long and short names. -/
def sharedOptions : List (OptionName × String × Option Char) :=
  [(.config, "config", some 'c'), (.logLevel, "log-level", some 'l')]

/-- The options that are known at a place, with their long and short names. -/
def options : Place → List (OptionName × String × Option Char)
  | .top => sharedOptions
  | .run => sharedOptions ++ [(.supersteps, "supersteps", some 's'),
    (.vertices, "vertices", some 'v'), (.channels, "channels", none),
    (.checkpointInterval, "checkpoint-interval", none)]
  | .inspect => sharedOptions ++ [(.dir, "dir", some 'd'), (.dataset, "dataset", none)]

def ofLong? (p : Place) (name : String) : Option OptionName :=
  ((options p).find? fun o => o.2.1 = name).map fun o => o.1

def ofShort? (p : Place) (c : Char) : Option OptionName :=
  ((options p).find? fun o => o.2.2 = some c).map fun o => o.1

inductive Word where
  /-- An option; its value is part of the word or the next word. -/
  | option (name : OptionName) (value : Option String)
  | help
  | version
  | stop
  | plain (text : String)
  | unknown
  deriving DecidableEq

/-- The text behind an equals sign, or the whole text. -/
def dropEquals : List Char → List Char
  | '=' :: rest => rest
  | text => text

/-- Splits a long option at its equals sign. -/
def splitEquals (text : List Char) : String × Option String :=
  let name := text.takeWhile (· ≠ '=')
  match text.dropWhile (· ≠ '=') with
  | [] => (String.ofList name, none)
  | _ :: value => (String.ofList name, some (String.ofList value))

def longWord (p : Place) (text : List Char) : Word :=
  match splitEquals text with
  | ("help", none) => .help
  | ("version", none) => if p = .top then .version else .unknown
  | (name, value) =>
    match ofLong? p name with
    | some o => .option o value
    | none => .unknown

def shortWord (p : Place) (c : Char) (rest : List Char) : Word :=
  if c = 'h' then .help
  else if c = 'V' ∧ p = .top then .version
  else match ofShort? p c with
    | some o =>
      .option o (if rest.isEmpty then none else some (String.ofList (dropEquals rest)))
    | none => .unknown

def classify (p : Place) (word : String) : Word :=
  match word.toList with
  | ['-', '-'] => .stop
  | '-' :: '-' :: text => longWord p text
  | ['-'] => .plain word
  | '-' :: c :: rest => shortWord p c rest
  | _ => .plain word

/-- The options given so far, latest first. -/
abbrev Given := List (OptionName × String)

/-- A number with an optional sign below a limit. -/
def signed? (limit : Nat) (text : String) : Option Nat :=
  match text.toList with
  | '-' :: digits =>
    match Decimal.readDigits? digits with
    | some 0 => some 0
    | _ => none
  | chars => Decimal.read? limit chars

/-- A 64-bit number without a minus sign. -/
def count? (text : String) : Option Nat := Decimal.read? UInt64.size text.toList

def isValue (o : OptionName) (value : String) : Bool :=
  match o with
  | .config => !value.isEmpty
  | .dir => !value.isEmpty
  | .logLevel => true
  | .dataset => true
  | .supersteps => (signed? UInt32.size value).isSome
  | .checkpointInterval => (signed? UInt32.size value).isSome
  | .vertices => (count? value).isSome
  | .channels => (count? value).isSome

/-- What the options of one place amount to, with the words that follow a command. -/
inductive Scan where
  | done (given : Given)
  | command (given : Given) (name : String) (rest : List String)
  | ended (r : Request)

/-- Adds an option; it must be new and the value must suit it. -/
def add (given : Given) (o : OptionName) (value : String) : Option Given :=
  if (given.lookup o).isSome || !isValue o value then none else some ((o, value) :: given)

/-- Reads the options of a place up to the end, or up to the first other word where commands are
known. -/
def scan (p : Place) (given : Given) : List String → Scan
  | [] => .done given
  | word :: rest =>
    match classify p word, rest with
    | .option o (some value), rest =>
      match add given o value with
      | some given => scan p given rest
      | none => .ended .misuse
    | .option _ none, [] => .ended .misuse
    | .option o none, value :: rest =>
      match classify p value with
      | .plain _ =>
        match add given o value with
        | some given => scan p given rest
        | none => .ended .misuse
      | _ => .ended .misuse
    | .help, _ => .ended .help
    | .version, _ => .ended .version
    | .stop, [] => .done given
    | .stop, _ :: _ => .ended .misuse
    | .plain name, rest => if p = .top then .command given name rest else .ended .misuse
    | .unknown, _ => .ended .misuse

def number? (given : Given) (o : OptionName) : Option Nat :=
  (given.lookup o).bind (signed? UInt64.size)

/-- The command at a place with its options. -/
def commandOf (p : Place) (given : Given) : Command :=
  match p with
  | .inspect => .inspect { dir := given.lookup .dir, dataset := given.lookup .dataset }
  | _ => .run {
      supersteps := (number? given .supersteps).getD 3
      vertices := (number? given .vertices).getD 1000
      channels := number? given .channels
      checkpointInterval := number? given .checkpointInterval }

/-- Reads what follows a command. -/
def finish (p : Place) (above : Given) (rest : List String) : Request :=
  match scan p [] rest with
  | .done given =>
    let shared (o : OptionName) := (given.lookup o).or (above.lookup o)
    .invocation ⟨commandOf p given, shared .config, shared .logLevel⟩
  | .command _ _ _ => .misuse
  | .ended r => r

def place? (name : String) : Option Place :=
  if name = "run" then some .run else if name = "inspect" then some .inspect else none

/-- Whether help is asked for something that is there. -/
def isHelpTopic : List String → Bool
  | [] => true
  | [name] => name = "help" || (place? name).isSome
  | _ => false

def read (words : List String) : Request :=
  match scan .top [] words with
  | .done _ => .misuse
  | .ended r => r
  | .command given name rest =>
    match place? name with
    | some p => finish p given rest
    | none => if name = "help" ∧ isHelpTopic rest then .help else .misuse

end CommandLine

end Fanout
