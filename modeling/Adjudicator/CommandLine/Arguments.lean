import Adjudicator.Number.Reading
import Adjudicator.Suite.Path
import Adjudicator.Text.Search

/-!
# Arguments

What is asked for on the command line: an analysis, the mutations of a project or a new settings
file. Arguments are read from left to right. An option takes the next argument unless that begins
with a hyphen; its value is looked at only when the next argument that is understood begins, and so
a later argument that is not understood is reported first. Behind `--` all arguments are paths.
-/

namespace Adjudicator.CommandLine

open Text

/-- Why arguments are not followed. -/
inductive UsageError where
  /-- Nothing is asked for. -/
  | nothingAsked
  /-- The help is asked for. -/
  | help
  /-- The version is asked for. -/
  | version
  /-- There is no such command. -/
  | unknownCommand
  /-- There is no such argument. -/
  | unknownArgument
  /-- A path is missing. -/
  | missingPath
  /-- An option is given twice. -/
  | repeated
  /-- A value is missing or is none of those that are allowed. -/
  | badValue
  /-- A value cannot be read. -/
  | unreadableValue
  /-- A flag has a value. -/
  | needlessValue
deriving DecidableEq, Repr, Inhabited

/-- An option of a command. -/
inductive Setting where
  | format
  | output
  | noAssistant
  | minConfidence
  | runTests
  | detailed
  | exclude
  | settings
  | verbose
  | force
  | help
deriving DecidableEq, Repr, Inhabited

namespace Setting

/-- The name behind two hyphens. -/
def name : Setting → String
  | format => "format"
  | output => "output"
  | noAssistant => "no-ai"
  | minConfidence => "min-confidence"
  | runTests => "run-tests"
  | detailed => "detailed"
  | exclude => "exclude"
  | settings => "config"
  | verbose => "verbose"
  | force => "force"
  | help => "help"

/-- The letter behind one hyphen. -/
def letter? : Setting → Option Char
  | format => some 'f'
  | output => some 'o'
  | settings => some 'c'
  | verbose => some 'v'
  | help => some 'h'
  | _ => none

/-- Whether it has a value. -/
def hasValue : Setting → Bool
  | format | output | minConfidence | exclude | settings => true
  | _ => false

/-- Whether it may be given more than once. -/
def isRepeatable : Setting → Bool
  | exclude | verbose => true
  | _ => false

/-- What is wrong with a value. -/
def fault? (s : Setting) (value : String) : Option UsageError :=
  match s with
  | format => if value = "json" || value = "table" then none else some .badValue
  | output | settings => if value.isEmpty then some .badValue else none
  | minConfidence =>
    if (Number.readFloat? value.toList).isSome then none else some .unreadableValue
  | _ => none

end Setting

/-- What arguments say so far. -/
structure Reading where
  /-- The options with their values, in order. -/
  given : List (Setting × String) := []
  /-- The paths, in order. -/
  paths : List Path := []
  /-- The option that was begun, with its value when it has come. -/
  begun : Option (Setting × Option String) := none
  /-- Paths that were not looked at. -/
  unseen : List Path := []
deriving Repr, Inhabited

namespace Reading

/-- The reading with an option that is looked at. -/
def accept (r : Reading) (s : Setting) (value : String) : Except UsageError Reading :=
  if s = .help then .error .help
  else if !s.isRepeatable && (r.given.lookup s).isSome then .error .repeated
  else
    match s.fault? value with
    | some e => .error e
    | none => .ok { r with given := r.given ++ [(s, value)] }

/-- The reading after all that came before is looked at. -/
def settle (r : Reading) : Except UsageError Reading :=
  if r.unseen.any fun p => p.isEmpty then .error .badValue
  else
    let seen := { r with paths := r.paths ++ r.unseen, unseen := [], begun := none }
    match r.begun with
    | none => .ok seen
    | some (_, none) => .error .badValue
    | some (s, some value) => seen.accept s value

/-- The reading with a flag, or with an option and its value. -/
def take (r : Reading) (s : Setting) (value : String) : Except UsageError Reading :=
  r.settle.bind fun r => r.accept s value

/-- The reading with the beginning of an option. -/
def start (r : Reading) (s : Setting) : Except UsageError Reading :=
  r.settle.map fun r => { r with begun := some (s, none) }

/-- The reading with a path. -/
def path (r : Reading) (p : Path) : Except UsageError Reading :=
  if r.begun.isSome then r.settle.map fun r => { r with unseen := [p] }
  else .ok { r with unseen := r.unseen ++ [p] }

/-- The reading with an argument that names an option by its whole name. -/
def long (known : List Setting) (r : Reading) (name : List Char) (value : Option (List Char)) :
    Except UsageError Reading :=
  match known.find? fun s => s.name.toList == name with
  | none => .error .unknownArgument
  | some s =>
    match s.hasValue, value with
    | true, some v => r.take s (String.ofList v)
    | true, none => r.start s
    | false, some _ => .error .needlessValue
    | false, none => r.take s ""

/-- The reading with an argument that names options by their letters. -/
def short (known : List Setting) (r : Reading) : List Char → Except UsageError Reading
  | [] => .ok r
  | c :: rest =>
    match known.find? fun s => s.letter? == some c with
    | none => .error .unknownArgument
    | some s =>
      if s.hasValue then
        match rest with
        | [] => r.start s
        | '=' :: value => r.take s (String.ofList value)
        | value => r.take s (String.ofList value)
      else (r.take s "").bind fun r => r.short known rest

/-- The reading with an argument that names no option. -/
def plain (takesPaths : Bool) (r : Reading) (s : String) : Except UsageError Reading :=
  match r.begun with
  | some (option, none) => .ok { r with begun := some (option, some s) }
  | _ => if takesPaths then r.path s else .error .unknownArgument

/-- A name cut at its first equality sign. -/
def splitValue (s : List Char) : List Char × Option (List Char) :=
  match s.span (· != '=') with
  | (name, _ :: value) => (name, some value)
  | (name, []) => (name, none)

/-- The reading with all arguments. -/
def all (known : List Setting) (takesPaths : Bool) : List String → Reading →
    Except UsageError Reading
  | [], r => r.settle
  | s :: rest, r =>
    match s.toList with
    | ['-', '-'] =>
      if takesPaths || rest.isEmpty then
        (rest.foldlM path r).bind settle
      else .error .unknownArgument
    | '-' :: '-' :: name =>
      let (name, value) := splitValue name
      (r.long known name value).bind (all known takesPaths rest)
    | '-' :: c :: letters => (r.short known (c :: letters)).bind (all known takesPaths rest)
    | _ => (r.plain takesPaths s).bind (all known takesPaths rest)

/-- The value of an option. -/
def value? (r : Reading) (s : Setting) : Option String :=
  r.given.lookup s

/-- Whether a flag is given. -/
def has (r : Reading) (s : Setting) : Bool :=
  (r.value? s).isSome

end Reading

/-- How results are written. -/
inductive Format where
  | json
  | table
deriving DecidableEq, Repr, Inhabited

/-- What is asked of a project. -/
structure Request where
  /-- The files and directories. -/
  paths : List Path
  /-- How results are written. -/
  format : Format := .table
  /-- The file that results are written to. -/
  output : Option Path := none
  /-- Whether the assistant is left out. -/
  noAssistant : Bool := false
  /-- How sure a pairing has to be. -/
  minConfidence : Option Float := none
  /-- Whether the tests are run first. -/
  runTests : Bool := false
  /-- Whether results are written with all that is behind them. -/
  detailed : Bool := false
  /-- Patterns of what is left out. -/
  exclude : List String := []
  /-- The settings file. -/
  settings : Option Path := none
  /-- How much is reported about the work. -/
  verbosity : Nat := 0
deriving Repr, Inhabited

/-- A command. -/
inductive Command where
  /-- Pairs of a project are judged. -/
  | analyze (request : Request)
  /-- Mutations of a project are reported. -/
  | mutations (request : Request)
  /-- A settings file is made, in place of another one if need be. -/
  | init (force : Bool)
deriving Repr, Inhabited

/-- The greatest verbosity. -/
def maxVerbosity : Nat :=
  255

/-- Patterns between commas. -/
def patterns (value : String) : List String :=
  (splitWhere (· == ',') value.toList).map String.ofList

/-- The request of a reading. -/
def Reading.request (r : Reading) : Except UsageError Request :=
  if r.paths.isEmpty then .error .missingPath
  else
    .ok
      { paths := r.paths
        format := if r.value? .format = some "json" then .json else .table
        output := r.value? .output
        noAssistant := r.has .noAssistant
        minConfidence := (r.value? .minConfidence).bind fun s => Number.readFloat? s.toList
        runTests := r.has .runTests
        detailed := r.has .detailed
        exclude := (r.given.filter fun g => g.1 = .exclude).flatMap fun g => patterns g.2
        settings := r.value? .settings
        verbosity := min maxVerbosity (r.given.filter fun g => g.1 = .verbose).length }

namespace Command

/-- The options of every request. -/
def shared : List Setting :=
  [.format, .output, .minConfidence, .exclude, .settings, .verbose, .help]

/-- The options of an analysis. -/
def ofAnalysis : List Setting :=
  shared ++ [.noAssistant, .runTests, .detailed]

/-- The names of commands, the help included. -/
def names : List String :=
  ["analyze", "mutations", "init", "help"]

/-- What asking for help on commands, one inside the other, leads to. -/
def helpOn : List String → UsageError
  | [] => .help
  | [name] => if names.contains name then .help else .unknownCommand
  | _ => .unknownCommand

/-- What options before any command lead to. -/
def leading (s : String) : UsageError :=
  match s.toList with
  | '-' :: '-' :: name =>
    let (name, value) := Reading.splitValue name
    match String.ofList name with
    | "help" => if value.isSome then .needlessValue else .help
    | "version" => if value.isSome then .needlessValue else .version
    | _ => .unknownArgument
  | '-' :: 'h' :: _ => .help
  | '-' :: 'V' :: _ => .version
  | '-' :: _ :: _ => .unknownArgument
  | _ => .unknownCommand

/-- The command of arguments. -/
def ofArguments : List String → Except UsageError Command
  | [] => .error .nothingAsked
  | "analyze" :: rest =>
    ((Reading.all ofAnalysis true rest {}).bind Reading.request).map analyze
  | "mutations" :: rest =>
    ((Reading.all shared true rest {}).bind Reading.request).map mutations
  | "init" :: rest =>
    (Reading.all [.force, .help] false rest {}).map fun r => init (r.has .force)
  | "help" :: rest => .error (helpOn rest)
  | "--" :: [] => .error .nothingAsked
  | "--" :: name :: _ =>
    .error (if names.contains name then .unknownArgument else .unknownCommand)
  | s :: _ => .error (leading s)

end Command

end Adjudicator.CommandLine
