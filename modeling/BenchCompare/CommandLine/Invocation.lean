import BenchCompare.CommandLine.Setting

/-!
# Reading a command line

A setting is written `--name value` or `--name=value`, a flag `--name` or by its letter, and several letters may
share one dash. The value of a setting is checked when the next argument is read, so an argument that is not known
is reported before it. After `--` every argument is a plain word.

* `Invocation`: what a command line asks for.
* `Invocation.ofArguments`: the reading, or why it stops.
-/

namespace BenchCompare.CommandLine

/-- What is asked for with every command. -/
structure Options where
  apiUrl : Option String := none
  configPath : Option String := none
  kind : Option Kind := none
  query : Option String := none
  verbose : Bool := false
deriving DecidableEq, Repr

/-- The inputs that are set for one comparison. -/
structure Overrides where
  oldRef : Option String := none
  newRef : Option String := none
  oldWorkload : Option String := none
  newWorkload : Option String := none
deriving DecidableEq, Repr

inductive Command where
  | refs (json : Bool)
  | compare (overrides : Overrides) (json : Bool)
  | link (value : String)
deriving DecidableEq, Repr

/-- What a command line asks for. Without a command, the dashboard is opened. -/
structure Invocation where
  options : Options := {}
  command : Option Command := none
deriving DecidableEq, Repr

/-- Why the reading of a command line stops. -/
inductive Stop where
  | help
  | misuse (error : UsageError)
deriving DecidableEq, Repr

/-! ### Arguments -/

/-- An argument, by its form. -/
inductive Argument where
  | separator
  | long (name : String) (value : Option String)
  | letters (letters : List Char)
  | word (text : String)
deriving DecidableEq, Repr

def Argument.ofText (text : String) : Argument :=
  match text.toList with
  | ['-', '-'] => .separator
  | '-' :: '-' :: rest =>
    .long (String.ofList (rest.takeWhile (· != '='))) <|
      match rest.dropWhile (· != '=') with
      | [] => none
      | _ :: value => some (String.ofList value)
  | '-' :: c :: rest => .letters (c :: rest)
  | _ => .word text

/-! ### Reading -/

/-- Where an argument stands: before a command or after it. -/
inductive Level where
  | top
  | command (name : CommandName)
deriving DecidableEq, Repr

namespace Level

def settings : Level → List Setting
  | .top => Setting.shared
  | .command name => Setting.shared ++ name.settings

/-- A plain word may follow. -/
def takesWord : Level → Bool
  | .top => false
  | .command name => name.operand?.isSome

def named? (l : Level) (name : String) : Option Setting :=
  l.settings.find? fun s => s.name == name || s.alias? == some name

def lettered? (l : Level) (c : Char) : Option Setting := l.settings.find? (·.letter? == some c)

/-- The error for a word that may not stand here. -/
def strayWord (l : Level) (literal : Bool) (text : String) : UsageError :=
  match l with
  | .top =>
    if literal && (text == "help" || (CommandName.ofName? text).isSome) then .unexpectedArgument text
    else .unknownCommand text
  | .command _ => .unexpectedArgument text

end Level

/-- What has been read at one level. -/
structure Reading where
  /-- The settings that have been checked, flags with an empty value. -/
  given : List (Setting × String) := []
  /-- The last setting with what has been read of it, not checked yet. -/
  pending : Option (Setting × Option String) := none
  word : Option String := none
  /-- Every argument that follows is a plain word. -/
  literal : Bool := false
deriving DecidableEq, Repr

namespace Reading

def fail {α : Type} (e : UsageError) : Except Stop α := .error (.misuse e)

/-- The last setting still lacks its value. -/
def awaitsValue (r : Reading) : Bool :=
  match r.pending with
  | some (_, none) => true
  | _ => false

/-- Whether a value will do for a setting. -/
def checkValue (s : Setting) (value : String) : Except Stop Unit :=
  match s with
  | .config => if value = "" then fail (.missingValue s) else .ok ()
  | .kind => if (Kind.ofName? value).isNone then fail (.invalidKind value) else .ok ()
  | _ => .ok ()

/-- Takes in a setting with its value. -/
def give (r : Reading) (s : Setting) (value : Option String) : Except Stop Reading :=
  if s.takesValue && value.isNone then fail (.missingValue s)
  else if s = .help then .error .help
  else if r.given.any (·.1 == s) then fail (.repeated s)
  else do
    checkValue s (value.getD "")
    .ok { r with given := r.given ++ [(s, value.getD "")] }

/-- Checks the last setting. -/
def settle (r : Reading) : Except Stop Reading :=
  match r.pending with
  | none => .ok r
  | some (s, value) => { r with pending := none }.give s value

def readLong (l : Level) (r : Reading) (name : String) (value : Option String) : Except Stop Reading :=
  match l.named? name with
  | none => fail (.unexpectedArgument ("--" ++ name))
  | some s =>
    if s.takesValue then do
      let r ← r.settle
      match value with
      | some _ => r.give s value
      | none => .ok { r with pending := some (s, none) }
    else match value with
      | some v => fail (.unneededValue s v)
      | none => do (← r.settle).give s none

/-- Letters stand for flags only. -/
def readLetters (l : Level) (r : Reading) : List Char → Except Stop Reading
  | [] => .ok r
  | c :: cs =>
    match l.lettered? c with
    | none => fail (.unexpectedArgument (String.ofList ['-', c]))
    | some s => do readLetters l (← (← r.settle).give s none) cs

def readWord (l : Level) (r : Reading) (text : String) : Except Stop Reading :=
  if l.takesWord && r.word.isNone then do .ok { ← r.settle with word := some text }
  else fail (l.strayWord r.literal text)

/-- Reads one argument. -/
def read (l : Level) (r : Reading) (text : String) : Except Stop Reading :=
  if r.literal then r.readWord l text
  else match Argument.ofText text with
    | .separator => .ok { r with literal := true }
    | .long name value => r.readLong l name value
    | .letters cs => r.readLetters l cs
    | .word text =>
      match r.pending with
      | some (s, none) => .ok { r with pending := some (s, some text) }
      | _ => r.readWord l text

/-- The value of a setting. -/
def value? (r : Reading) (s : Setting) : Option String := r.given.lookup s

end Reading

/-- Reads what follows `help`: the name of a command, or nothing. -/
def readHelp : List String → Stop
  | [] => .help
  | name :: rest =>
    if name = "help" || (CommandName.ofName? name).isSome then
      match rest with
      | [] => .help
      | other :: _ => .misuse (.unknownCommand other)
    else .misuse (.unknownCommand name)

/-- Reads what follows a command. -/
def readCommand (name : CommandName) (args : List String) : Except Stop Reading := do
  let r ← args.foldlM (Reading.read (.command name)) {}
  let r ← r.settle
  match name.operand? with
  | some operand => if r.word.isNone then .error (.misuse (.missingOperand operand)) else .ok r
  | none => .ok r

/-- Reads everything, up to a command and then what follows it. A word names a command unless it is a value. -/
def readTop (r : Reading) : List String → Except Stop (Reading × Option (CommandName × Reading))
  | [] => do .ok (← r.settle, none)
  | text :: rest =>
    if r.literal || r.awaitsValue then do readTop (← r.read .top text) rest
    else if text = "help" then .error (readHelp rest)
    else match CommandName.ofName? text with
      | some name => do
        let sub ← readCommand name rest
        .ok (← r.settle, some (name, sub))
      | none => do readTop (← r.read .top text) rest

namespace Invocation

def commandOf (name : CommandName) (r : Reading) : Command :=
  let json := (r.value? .json).isSome
  match name with
  | .refs => .refs json
  | .compare =>
    .compare {
      oldRef := r.value? .old, newRef := r.value? .new,
      oldWorkload := r.value? .oldWorkload, newWorkload := r.value? .newWorkload } json
  | .link => .link (r.word.getD "")

/-- The reading as a whole. What is given after a command counts before what is given ahead of it. -/
def ofReading (top : Reading) (sub : Option (CommandName × Reading)) : Invocation :=
  let value? (s : Setting) : Option String := (sub.bind (·.2.value? s)).or (top.value? s)
  { options := {
      apiUrl := value? .apiUrl, configPath := value? .config, kind := (value? .kind).bind Kind.ofName?,
      query := value? .query, verbose := (value? .verbose).isSome }
    command := sub.map fun c => commandOf c.1 c.2 }

/-- What a command line asks for. -/
def ofArguments (args : List String) : Except Stop Invocation := do
  let (top, sub) ← readTop {} args
  .ok (ofReading top sub)

end Invocation

end BenchCompare.CommandLine
