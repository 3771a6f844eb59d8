import BenchCompare.Json.Reader
import BenchCompare.Text.Blank

/-!
# Configuration

The settings of the program. A configuration file is a JSON object in UTF-8 with any of the settings; the others
keep their defaults.
-/

namespace BenchCompare

structure Config where
  /-- The base of the service. -/
  apiUrl : String := "http://localhost:8080/api/"
  /-- The page that shared links point to. -/
  pageUrl : String := "http://localhost:3000/"
  commitHost : String := "github.com"
  project : String := "vitessio/vitess"
  oldShortcut : String := "o"
  newShortcut : String := "j"
  /-- The workloads on offer, in the order of the selectors. -/
  workloads : List String := ["TPCC", "TPCC_FK", "TPCC_UNSHARDED", "TPCC_FK_UNMANAGED"]
deriving DecidableEq, Repr, Inhabited

/-- Why a configuration file is refused. -/
inductive ConfigError where
  /-- There is no such file, or it is no text. -/
  | unreadable
  /-- The text is no configuration. -/
  | malformed
deriving DecidableEq, Repr

namespace Config

/-- The link to a commit. -/
def commitUrl (c : Config) (value : String) : String :=
  "https://" ++ Text.trimSlashes c.commitHost ++ "/" ++ Text.trimSlashes c.project ++ "/commit/" ++ value

def fieldNames : List String :=
  ["api_url", "page_url", "commit_host", "project", "old_shortcut", "new_shortcut", "workloads"]

open Json in
def ofJson? (v : Value) : Option Config := do
  let s ← Source.ofValue? fieldNames v
  let default : Config := {}
  some {
    apiUrl := ← s.getD? "api_url" 0 Value.toText? default.apiUrl
    pageUrl := ← s.getD? "page_url" 1 Value.toText? default.pageUrl
    commitHost := ← s.getD? "commit_host" 2 Value.toText? default.commitHost
    project := ← s.getD? "project" 3 Value.toText? default.project
    oldShortcut := ← s.getD? "old_shortcut" 4 Value.toText? default.oldShortcut
    newShortcut := ← s.getD? "new_shortcut" 5 Value.toText? default.newShortcut
    workloads := ← s.getD? "workloads" 6 (Value.toList? Value.toText?) default.workloads }

/-- The configuration that the bytes of a file hold, if there is such a file. -/
def load (file : Option (List UInt8)) : Except ConfigError Config :=
  match file with
  | none => .error .unreadable
  | some bytes =>
    if (Utf8.decode? bytes).isNone then .error .unreadable
    else match (Json.read? bytes).bind ofJson? with
      | none => .error .malformed
      | some c => .ok c

end Config

end BenchCompare
