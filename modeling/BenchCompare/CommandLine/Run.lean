import BenchCompare.CommandLine.Invocation
import BenchCompare.Json.Printer
import BenchCompare.Report.Table
import BenchCompare.Session
import BenchCompare.Terminal.Keyboard

/-!
# Running the program

The program is a function of its command line and of the machine that it runs on: the files, the network, the
terminal and the clock.

* `Output`: what a run leaves behind.
* `refs`, `compare`, `link`, `dashboard`: the commands.
* `run`: the program.
-/

namespace BenchCompare.CommandLine

/-- The machine that the program runs on. -/
structure Machine where
  /-- The bytes of a file that can be read. -/
  file? : String → Option (List UInt8)
  network : Network
  /-- What is typed, if there is a terminal. -/
  typed : Option (List UInt8) := none
  /-- The file for the log of the dashboard, and whether it can be written. -/
  log : Option (String × Bool) := none
  /-- The time, as a text. -/
  now : String

/-- What a run leaves behind. -/
structure Output where
  code : Nat := 0
  /-- The lines on standard output. -/
  lines : List String := []
  /-- The lines on standard error, the log aside. -/
  notices : List Notice := []
  /-- The URLs that were asked for. -/
  requested : List String := []
  /-- The run took over the screen. -/
  tookScreen : Bool := false

/-- A run that fails with a notice. -/
def Output.failure (n : Notice) (requested : List String) : Output := { code := 1, notices := [n], requested }

/-! ### Settings -/

/-- What every command needs. -/
structure Settings where
  config : Config := {}
  kind : Kind := .foreignKeys
  query : String := ""

/-- The notice for a configuration file. -/
def configNotice (path : String) : ConfigError → Notice
  | .unreadable => { text := "read config " ++ path, detail := "no readable text" }
  | .malformed => { text := "parse config " ++ path, detail := "not of the expected form" }

/-- The configuration of a file, if one is given. -/
def loadConfig (m : Machine) : Option String → Except Notice Config
  | none => .ok {}
  | some path =>
    match Config.load (m.file? path) with
    | .ok c => .ok c
    | .error e => .error ((configNotice path e).within "load settings")

/-- The settings of a command line. An address that is given there replaces that of the file. -/
def Settings.load (m : Machine) (o : Options) : Except Notice Settings :=
  (loadConfig m o.configPath).map fun config =>
    { config := { config with apiUrl := o.apiUrl.getD config.apiUrl }
      kind := o.kind.getD .foreignKeys, query := o.query.getD "" }

def Settings.client (s : Settings) : Client := .ofAddress s.config.apiUrl

/-! ### Commands -/

/-- A line for one ref. -/
def refLine (e : Entry) : String :=
  Text.padEnd 8 e.group.heading ++ " " ++ Text.padEnd 28 e.ref.name ++ " " ++ e.ref.hash

/-- Lists the known refs. -/
def refs (m : Machine) (s : Settings) (json : Bool) : Output :=
  let requested := [s.client.url Client.catalogPath]
  match s.client.fetchCatalog m.network with
  | .error failure => .failure (failure.notice.within "fetch refs") requested
  | .ok c =>
    { requested
      lines := if json then [Json.pretty c.toJson]
        else c.entries.map refLine ++ [Decimal.numeral c.size ++ " refs"] }

/-- The changes that overrides make, the refs first. -/
def Overrides.changes (o : Overrides) : List Change :=
  (o.oldRef.map Change.oldRef).toList ++ (o.newRef.map Change.newRef).toList
    ++ (o.oldWorkload.map Change.oldWorkload).toList ++ (o.newWorkload.map Change.newWorkload).toList

/-- The page of a shared query with the given inputs in place of its own. -/
def comparePage (s : Settings) (o : Overrides) : Page :=
  o.changes.foldl Page.change (.mount s.kind (.ofQuery s.config.pageUrl s.query))

def missingRefs (kind : Kind) : Notice :=
  { text := "missing refs for a " ++ kind.title ++ " comparison (pass --old"
      ++ (if kind.usesNewRef then " and --new" else "") ++ ")" }

/-- Prints one comparison, and the link to it on standard error. -/
def compare (m : Machine) (s : Settings) (o : Overrides) (json : Bool) : Output :=
  let page := comparePage s o
  match page.requests.getLast? with
  | none => .failure (missingRefs s.kind) []
  | some request =>
    let requested := [s.client.url request.target.endpoint]
    match (page.complete request.generation (s.client.fetchComparison m.network request.target)).1.status with
    | .ready report =>
      { requested, lines := if json then [Json.pretty report.toJson] else report.tableLines
        notices := [{ text := page.address.shareUrl }] }
    | .failed message => .failure { text := message } requested
    | .loading | .notReady => .failure { text := "comparison did not complete" } requested

/-- Prints the title of a ref and the link to its commit. -/
def link (m : Machine) (s : Settings) (value : String) : Output :=
  let title := match s.client.fetchCatalog m.network with
    | .ok c => c.title value
    | .error _ => shortRef value
  { lines := [title, s.config.commitUrl value], requested := [s.client.url Client.catalogPath] }

/-! ### The dashboard -/

/-- The session after keystrokes. Before each of them all outcomes are delivered, and none counts after the end. -/
def play (b : Backend) (now : String) (s : Session) : List Keystroke → Session
  | [] => s
  | k :: ks => if s.app.quit then s else play b now ((s.drain now).1.press b k) ks

/-- The URL of a fetch. -/
def fetchUrl (c : Client) : Fetch → String
  | .catalog _ => c.url Client.catalogPath
  | .comparison r => c.url r.target.endpoint

/-- Opens the dashboard, and prints the link to what it shows in the end. -/
def dashboard (m : Machine) (s : Settings) : Output :=
  match m.typed with
  | none => .failure { text := "TUI requires an interactive terminal (TTY)" } []
  | some typed =>
    match m.log with
    | some (path, false) => .failure { text := "open log file " ++ path, detail := "not writable" } []
    | _ =>
      match App.start s.config s.kind s.query with
      | .error e => .failure { text := e.message } []
      | .ok app =>
        let b := Backend.ofClient s.client m.network
        let last := play b m.now (.start b app) (Keyboard.decode typed)
        { lines := [last.app.page.address.shareUrl], requested := last.fetches.map (fetchUrl s.client)
          tookScreen := true }

/-! ### The program -/

def runCommand (m : Machine) (s : Settings) : Option Command → Output
  | none => dashboard m s
  | some (.refs json) => refs m s json
  | some (.compare o json) => compare m s o json
  | some (.link value) => link m s value

/-- A summary of the command line. -/
def usage : List String := [
  "Benchmark comparison dashboard",
  "",
  "Usage: [OPTIONS] [COMMAND]",
  "",
  "Commands:",
  "  refs     List known branches and release tags",
  "  compare  Fetch and print one comparison",
  "  link     Show the display title and commit link for a ref"]

/-- The run of a command line. -/
def run (m : Machine) (args : List String) : Output :=
  match Invocation.ofArguments args with
  | .error .help => { lines := usage }
  | .error (.misuse e) => { code := 2, notices := [{ text := "error: " ++ e.report }] }
  | .ok i =>
    match Settings.load m i.options with
    | .error n => .failure n []
    | .ok s => runCommand m s i.command

end BenchCompare.CommandLine
