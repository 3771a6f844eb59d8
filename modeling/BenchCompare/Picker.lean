import BenchCompare.Catalog
import BenchCompare.Params
import BenchCompare.Text.Blank
import BenchCompare.Text.Casing

/-!
# Picking a ref

* `matchScore`: how well a text matches a name. An equal name scores highest, then a name that starts with the
  text, shorter ones first, then one that holds it elsewhere. Letter case does not count.
* `Catalog.listed`: the entries that match a text, branches before releases and the best match first.
* `Picker`: a search box over the catalog with its selection. A picker takes input only while it is open. The
  operations that may end in a choice give the ref that was chosen.
-/

namespace BenchCompare

/-- How well `text` matches `candidate`, zero if not at all. Lengths have no bound here. Counted in 32 bits they give
the same score for a candidate with fewer than `2 ^ 31` bytes. -/
def matchScore (text candidate : String) : Nat :=
  let q := Text.lower text
  let c := Text.lower candidate
  if c = q then 100
  else if q.toList.isPrefixOf c.toList then 50 - min (c.utf8ByteSize - q.utf8ByteSize) 40
  else if Text.occursIn q.toList c.toList then 10
  else 0

/-- How well a text matches the name or the hash of a ref. Every ref matches the empty text. -/
def Ref.score (text : String) (r : Ref) : Nat :=
  if text = "" then 1 else max (matchScore text r.name) (matchScore text r.hash)

namespace Catalog

/-- The refs that match a text, the best match first and in their own order where they match equally well. -/
def ranked (text : String) (refs : List Ref) : List Ref :=
  (((refs.map fun r => (r.score text, r)).filter fun p => 0 < p.1).mergeSort fun a b => b.1 ≤ a.1).map (·.2)

/-- The entries that match what has been typed. -/
def listed (c : Catalog) (typed : String) : List Entry :=
  let text := Text.trim typed
  (ranked text c.branches).map (⟨.branches, ·⟩) ++ (ranked text c.releases).map (⟨.releases, ·⟩)

end Catalog

/-- A search box for the ref on one side. -/
structure Picker where
  side : Side
  isOpen : Bool := false
  input : String := ""
  /-- The name of the choice, empty if the choice was not made here. -/
  label : String := ""
  /-- The ref that is chosen. -/
  value : String := ""
  /-- The place of the highlighted entry in the list. -/
  highlight : Option Nat := none
deriving DecidableEq, Repr

namespace Picker

def activate (p : Picker) : Picker :=
  if p.isOpen then p else { p with isOpen := true, highlight := none }

/-- Closes the picker and leaves its selection as it is. -/
def dismiss (p : Picker) : Picker := { p with isOpen := false, highlight := none }

def setInput (p : Picker) (text : String) : Picker :=
  if p.isOpen then { p with input := text, highlight := none } else p

def push (p : Picker) (c : Char) : Picker := p.setInput (p.input.push c)

def pop (p : Picker) : Picker := p.setInput (String.ofList p.input.toList.dropLast)

/-- Chooses an entry of the catalog. -/
def select (p : Picker) (r : Ref) : Picker × Option String :=
  if p.isOpen then ({ p with input := r.name, label := r.name, value := r.hash }.dismiss, some r.hash)
  else (p, none)

/-- Chooses the typed text itself. -/
def confirmTyped (p : Picker) : Picker × Option String :=
  if p.isOpen then
    ({ p with label := p.input, value := Text.trim p.input }.dismiss, some (Text.trim p.input))
  else (p, none)

/-- The entries that match what has been typed, none without a catalog. -/
def listed (p : Picker) : Option Catalog → List Entry
  | none => []
  | some c => c.listed p.input

/-- The highlighted entry. -/
def highlighted? (p : Picker) (c : Option Catalog) : Option Entry := p.highlight.bind fun i => (p.listed c)[i]?

/-- Chooses the highlighted entry, or else the typed text. -/
def confirm (p : Picker) (c : Option Catalog) : Picker × Option String :=
  match p.highlighted? c with
  | some e => p.select e.ref
  | none => p.confirmTyped

/-- Takes over a ref that was set elsewhere. -/
def adopt (p : Picker) (value : String) : Picker :=
  if value = p.value then p else { p with value, input := value, label := "" }

/-- The highlight one entry further down in a list of `n`, from the last to the first. -/
def below (n : Nat) : Option Nat → Option Nat
  | none => if n = 0 then none else some 0
  | some i => if n = 0 then none else some ((i + 1) % n)

/-- The highlight one entry further up in a list of `n`, from the first to the last. -/
def above (n : Nat) : Option Nat → Option Nat
  | none => if n = 0 then none else some (n - 1)
  | some i => if n = 0 then none else some ((i + n - 1) % n)

def moveDown (p : Picker) (c : Option Catalog) : Picker :=
  { p with highlight := below (p.listed c).length p.highlight }

def moveUp (p : Picker) (c : Option Catalog) : Picker :=
  { p with highlight := above (p.listed c).length p.highlight }

/-- The text on the closed picker. -/
def display (p : Picker) (c : Option Catalog) (placeholder : String) : String :=
  if p.label ≠ "" then p.label
  else if p.value = "" then placeholder
  else match c with
    | some c => c.title p.value
    | none => p.value

end Picker

end BenchCompare
