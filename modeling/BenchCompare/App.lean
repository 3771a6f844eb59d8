import BenchCompare.Config
import BenchCompare.Page
import BenchCompare.Picker
import BenchCompare.Shortcut.Bindings

/-!
# The dashboard application

`App` is the state of the dashboard: a comparison page, the catalog of refs, one picker for each side with the
shortcuts that open them, and the place that the view is scrolled to.

* `App.start`: the dashboard of a configuration, a kind and a query.
* `App.press`, `App.change`, `App.reload`, `App.reloadCatalog`, `App.receive`, `App.unmountShortcuts`: what a
  keystroke, a new input, asking again, an outcome of a fetch and leaving the dashboard do to it.
* `App.step`: the same for an `App.Event`.
* `App.fetchesSince`: the fetches that one state has asked for and an earlier one had not.
-/

namespace BenchCompare

/-- What came of a fetch. -/
inductive Outcome where
  | catalog (generation : Nat) (result : Except Failure Catalog)
  | comparison (generation : Nat) (result : FetchResult)

/-- Something that is asked of the service. -/
inductive Fetch where
  | catalog (generation : Nat)
  | comparison (request : Request)
deriving DecidableEq, Repr

/-- A configured shortcut that is no chord. -/
structure ShortcutError where
  side : Side
  error : ChordError
deriving DecidableEq, Repr

def ShortcutError.message (e : ShortcutError) : String := e.side.name ++ " picker shortcut: " ++ e.error.message

structure App where
  config : Config
  page : Page
  catalog : Option Catalog := none
  /-- The generation of the load of the catalog that counts. -/
  catalogGeneration : Nat := 1
  /-- The generations of all loads of the catalog that were asked for, oldest first. -/
  catalogLoads : List Nat := []
  /-- Why there is no catalog. -/
  note : Option String := none
  oldPicker : Picker := { side := .old }
  newPicker : Picker := { side := .new }
  oldChord : Chord
  newChord : Chord
  bindings : Bindings := {}
  /-- The time of the last comparison result. -/
  updatedAt : Option String := none
  /-- The lines that the view is asked to scroll by. -/
  scroll : Nat := 0
  quit : Bool := false

namespace App

def kind (a : App) : Kind := a.page.kind

def params (a : App) : Params := a.page.params

def picker (a : App) : Side → Picker
  | .old => a.oldPicker | .new => a.newPicker

def setPicker (a : App) (side : Side) (p : Picker) : App :=
  match side with
  | .old => { a with oldPicker := p }
  | .new => { a with newPicker := p }

/-- The side whose picker is open. -/
def openSide? (a : App) : Option Side :=
  if a.oldPicker.isOpen then some .old else if a.newPicker.isOpen then some .new else none

def focus (a : App) : Focus := if a.openSide?.isSome then .text else .dashboard

/-- The sides that have a picker on this kind of page. -/
def pickerSides (kind : Kind) : List Side := if kind.usesNewRef then [.old, .new] else [.old]

def chord (a : App) : Side → Chord
  | .old => a.oldChord | .new => a.newChord

/-! ### Inputs -/

/-- Shows the refs of the page in the pickers. -/
def syncPickers (a : App) : App :=
  { a with oldPicker := a.oldPicker.adopt a.params.oldRef, newPicker := a.newPicker.adopt a.params.newRef }

/-- Sets an input and scrolls back to the top. -/
def change (a : App) (c : Change) : App :=
  { { a with page := a.page.change c }.syncPickers with scroll := 0 }

/-- The workload after this one, the first one after the last. -/
def nextWorkload? (workloads : List String) (current : String) : Option String :=
  match workloads.idxOf? current with
  | some i => workloads[(i + 1) % workloads.length]?
  | none => workloads.head?

/-- Moves a side to the next workload, on pages that compare workloads. -/
def cycleWorkload (a : App) (side : Side) : App :=
  if a.kind.usesWorkloads then
    match nextWorkload? a.config.workloads (a.params.workload side) with
    | some w => a.change (.workload side w)
    | none => a
  else a

def reload (a : App) : App := { a with page := a.page.reload }

/-- Asks for the catalog. -/
def loadCatalog (a : App) (generation : Nat) : App := { a with catalogLoads := a.catalogLoads ++ [generation] }

/-- Asks for the catalog again, under a new generation. -/
def reloadCatalog (a : App) : App :=
  let a := { a with catalogGeneration := a.catalogGeneration + 1 }
  a.loadCatalog a.catalogGeneration

/-! ### Outcomes -/

def missingCatalogNote : String := "refs unavailable: type a commit hash and press Enter"

/-- Takes in an outcome at the time `now`, and says whether it counts. -/
def receive (a : App) (now : String) : Outcome → App × Bool
  | .comparison generation result =>
    let (page, applied) := a.page.complete generation result
    ({ a with page, updatedAt := if applied then some now else a.updatedAt }, applied)
  | .catalog generation result =>
    if generation ≠ a.catalogGeneration then (a, false)
    else match result with
      | .ok catalog => ({ a with catalog := some catalog, note := none }, true)
      | .error _ => ({ a with catalog := none, note := some missingCatalogNote }, true)

/-! ### Keys -/

/-- A keystroke while the picker of a side is open. -/
def pressInPicker (a : App) (side : Side) (k : Keystroke) : App :=
  let p := a.picker side
  match k.key with
  | .esc => a.setPicker side p.dismiss
  | .enter =>
    let (p, chosen) := p.confirm a.catalog
    match chosen with
    | some value => (a.setPicker side p).change (.ref side value)
    | none => a.setPicker side p
  | .up => a.setPicker side (p.moveUp a.catalog)
  | .down | .tab => a.setPicker side (p.moveDown a.catalog)
  | .backspace => a.setPicker side p.pop
  | .char c =>
    if k.mods.ctrl then if c = 'u' then a.setPicker side (p.setInput "") else a
    else if k.mods.alt then a
    else a.setPicker side (p.push c)
  | _ => a

/-- A keystroke that opens no picker. -/
def pressCommand (a : App) (k : Keystroke) : App :=
  match k.key with
  | .esc => { a with quit := true }
  | .up => { a with scroll := a.scroll - 1 }
  | .down => { a with scroll := a.scroll + 1 }
  | .pageUp => { a with scroll := a.scroll - 10 }
  | .pageDown => { a with scroll := a.scroll + 10 }
  | .char c =>
    if c = 'q' then { a with quit := true }
    else if c = 'c' && k.mods.ctrl then { a with quit := true }
    else if c = 'w' then a.cycleWorkload .old
    else if c = 'W' then a.cycleWorkload .new
    else if c = 'r' then a.reload
    else if c = 'R' then a.reloadCatalog
    else a
  | _ => a

/-- A keystroke: for the open picker if there is one, else for a shortcut, else for the dashboard. -/
def press (a : App) (k : Keystroke) : App :=
  match a.openSide? with
  | some side => a.pressInPicker side k
  | none =>
    match a.bindings.route k a.focus with
    | some side => a.setPicker side (a.picker side).activate
    | none => a.pressCommand k

/-! ### Start and end -/

/-- Mounts the shortcuts of the pickers on the page. -/
def mountShortcuts (a : App) : App :=
  { a with bindings := (pickerSides a.kind).foldl (fun b side => b.mount side (a.chord side)) a.bindings }

def unmountShortcuts (a : App) : App := { a with bindings := (a.bindings.unmount .old).unmount .new }

/-- The chord of a side. -/
def parseChord (side : Side) (raw : String) : Except ShortcutError Chord :=
  match Chord.parse raw with
  | .ok c => .ok c
  | .error error => .error ⟨side, error⟩

/-- The dashboard as it is opened. -/
def start (config : Config) (kind : Kind) (query : String) : Except ShortcutError App := do
  let oldChord ← parseChord .old config.oldShortcut
  let newChord ← parseChord .new config.newShortcut
  let page := Page.mount kind (.ofQuery config.pageUrl query)
  let a : App := { config, page, oldChord, newChord }
  .ok (a.loadCatalog 1).syncPickers.mountShortcuts

/-! ### Events and fetches -/

inductive Event where
  | key (k : Keystroke)
  | change (c : Change)
  | reload
  | reloadCatalog
  | outcome (now : String) (o : Outcome)
  | unmount

/-- What an event does to the dashboard. -/
def step (a : App) : Event → App
  | .key k => a.press k
  | .change c => a.change c
  | .reload => a.reload
  | .reloadCatalog => a.reloadCatalog
  | .outcome now o => (a.receive now o).1
  | .unmount => a.unmountShortcuts

/-- The fetches asked for after the first so many of each kind, in order. -/
def fetchesAfter (a : App) (catalogs comparisons : Nat) : List Fetch :=
  (a.catalogLoads.drop catalogs).map .catalog ++ (a.page.requests.drop comparisons).map .comparison

/-- The fetches that an earlier state had not asked for. -/
def fetchesSince (a before : App) : List Fetch :=
  a.fetchesAfter before.catalogLoads.length before.page.requests.length

end App

end BenchCompare
