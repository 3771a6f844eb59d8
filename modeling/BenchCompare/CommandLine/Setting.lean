import BenchCompare.Params
import BenchCompare.Terminal.Plain

/-!
# What can be given on the command line

* `Setting`: what is given by name, with the names that it goes by.
* `CommandName`: the commands, each with settings of its own.
* `UsageError`: why a command line is refused.
-/

namespace BenchCompare.CommandLine

/-- What is given by name. -/
inductive Setting where
  | apiUrl | config | kind | query | verbose | help
  | json | old | new | oldWorkload | newWorkload
deriving DecidableEq, Repr

namespace Setting

/-- The settings that every command takes. -/
def shared : List Setting := [.apiUrl, .config, .kind, .query, .verbose, .help]

/-- The name that a setting is known by. -/
def name : Setting → String
  | .apiUrl => "api-url" | .config => "config" | .kind => "kind" | .query => "query" | .verbose => "verbose"
  | .help => "help" | .json => "json" | .old => "old" | .new => "new" | .oldWorkload => "old-workload"
  | .newWorkload => "new-workload"

/-- Another name for a setting. -/
def alias? : Setting → Option String
  | .old => some "sha"
  | _ => none

def letter? : Setting → Option Char
  | .verbose => some 'v'
  | .help => some 'h'
  | _ => none

/-- The name of the value, for a setting that has one. -/
def valueName? : Setting → Option String
  | .apiUrl => some "API_URL" | .config => some "PATH" | .kind => some "KIND" | .query => some "QUERY"
  | .old => some "OLD" | .new => some "NEW" | .oldWorkload => some "OLD_WORKLOAD"
  | .newWorkload => some "NEW_WORKLOAD"
  | .verbose | .help | .json => none

def takesValue (s : Setting) : Bool := s.valueName?.isSome

/-- A setting as it is written in messages. -/
def shown (s : Setting) : String :=
  "--" ++ s.name ++
    match s.valueName? with
    | some value => " <" ++ value ++ ">"
    | none => ""

end Setting

inductive CommandName where
  | refs | compare | link
deriving DecidableEq, Repr

namespace CommandName

def name : CommandName → String
  | .refs => "refs" | .compare => "compare" | .link => "link"

def all : List CommandName := [.refs, .compare, .link]

def ofName? (name : String) : Option CommandName := all.find? (·.name == name)

/-- The settings of a command. -/
def settings : CommandName → List Setting
  | .refs => [.json]
  | .compare => [.old, .new, .oldWorkload, .newWorkload, .json]
  | .link => []

/-- The name of the value that must follow a command. -/
def operand? : CommandName → Option String
  | .link => some "VALUE"
  | _ => none

end CommandName

/-- Why a command line is refused. -/
inductive UsageError where
  | unexpectedArgument (text : String)
  | unknownCommand (name : String)
  | missingValue (setting : Setting)
  | repeated (setting : Setting)
  | unneededValue (setting : Setting) (value : String)
  | invalidKind (value : String)
  | missingOperand (name : String)
deriving DecidableEq, Repr

namespace UsageError

/-- The message in parts. A text that is quoted is a part of its own. -/
def parts : UsageError → List String
  | .unexpectedArgument text => ["unexpected argument '", text, "' found"]
  | .unknownCommand name => ["unrecognized subcommand '", name, "'"]
  | .missingValue s => ["a value is required for '", s.shown, "' but none was supplied"]
  | .repeated s => ["the argument '", s.shown, "' cannot be used multiple times"]
  | .unneededValue s value => ["unexpected value '", value, "' for '", s.shown, "' found; no more were expected"]
  | .invalidKind value =>
    ["invalid value '", value, "' for '", Setting.kind.shown, "': unknown comparison kind: " ++ value]
  | .missingOperand name => ["the following required arguments were not provided:\n  <" ++ name ++ ">"]

/-- Parts with a text after the last one. -/
def extend (text : String) : List String → List String
  | [] => [text]
  | [last] => [last ++ text]
  | part :: next :: rest => part :: extend text (next :: rest)

/-- What is written: the message and where to find help. The parts are set apart by sequences of a style, so none of
them reaches into the next one. -/
def report (e : UsageError) : String :=
  String.join ((extend "\n\nFor more information, try '" e.parts ++ ["--help", "'."]).map Plain.text)

end UsageError

end BenchCompare.CommandLine
