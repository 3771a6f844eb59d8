import BenchCompare.Query.Form
import BenchCompare.Text.Blank
import BenchCompare.Text.Casing

/-!
# Comparisons and what they depend on

* `Kind`: the two kinds of comparison page.
* `Side`: the old and the new side of a comparison.
* `Params`: the four inputs of the user, an empty text where an input is unset.
* `Target`: the part of the inputs that a result depends on, if enough of them are set.
-/

namespace BenchCompare

/-- What is compared: one commit under two workloads, or two commits. -/
inductive Kind where
  | foreignKeys | macrobench
deriving DecidableEq, Repr, Inhabited

inductive Side where
  | old | new
deriving DecidableEq, Repr

namespace Side

/-- The name of a side in running text. -/
def name : Side → String
  | .old => "old" | .new => "new"

/-- The name of a side in a heading. -/
def label : Side → String
  | .old => "Old" | .new => "New"

end Side

namespace Kind

/-- The kind with this name, blank space and letter case aside. -/
def ofName? (raw : String) : Option Kind :=
  let name := Text.lower (Text.trim raw)
  if name ∈ ["fk", "foreign-keys", "foreignkeys"] then some .foreignKeys
  else if name ∈ ["macrobench", "macro"] then some .macrobench
  else none

def title : Kind → String
  | .foreignKeys => "Foreign Keys" | .macrobench => "Compare"

/-- The name of the old ref in a query string. -/
def oldRefName : Kind → String
  | .foreignKeys => "sha" | .macrobench => "old"

/-- The name that the other kind gives to the old ref, read when one's own is missing. -/
def oldRefAlias : Kind → String
  | .foreignKeys => "old" | .macrobench => "sha"

def usesNewRef : Kind → Bool
  | .foreignKeys => false | .macrobench => true

def usesWorkloads : Kind → Bool
  | .foreignKeys => true | .macrobench => false

end Kind

/-- The inputs of the user. -/
structure Params where
  oldRef : String := ""
  newRef : String := ""
  oldWorkload : String := ""
  newWorkload : String := ""
deriving DecidableEq, Repr, Inhabited

/-- A new value for one of the inputs. -/
inductive Change where
  | oldRef (value : String) | newRef (value : String)
  | oldWorkload (value : String) | newWorkload (value : String)
deriving DecidableEq, Repr

namespace Params

/-- Every ref that the kind needs is set. -/
def Ready (kind : Kind) (p : Params) : Prop :=
  p.oldRef ≠ "" ∧ (kind.usesNewRef = true → p.newRef ≠ "")

instance (kind : Kind) (p : Params) : Decidable (p.Ready kind) := by unfold Ready; infer_instance

def apply (p : Params) : Change → Params
  | .oldRef v => { p with oldRef := v }
  | .newRef v => { p with newRef := v }
  | .oldWorkload v => { p with oldWorkload := v }
  | .newWorkload v => { p with newWorkload := v }

def ref (p : Params) : Side → String
  | .old => p.oldRef | .new => p.newRef

def workload (p : Params) : Side → String
  | .old => p.oldWorkload | .new => p.newWorkload

end Params

namespace Change

/-- The change of the ref on one side. -/
def ref : Side → String → Change
  | .old => .oldRef | .new => .newRef

/-- The change of the workload on one side. -/
def workload : Side → String → Change
  | .old => .oldWorkload | .new => .newWorkload

end Change

/-- What a comparison result is fetched for. -/
inductive Target where
  | foreignKeys (sha oldWorkload newWorkload : String)
  | macrobench (old new : String)
deriving DecidableEq, Repr

namespace Target

/-- The target of the inputs, once every ref that the kind needs is set. -/
def ofParams? (kind : Kind) (p : Params) : Option Target :=
  if p.Ready kind then
    some (match kind with
      | .foreignKeys => .foreignKeys p.oldRef p.oldWorkload p.newWorkload
      | .macrobench => .macrobench p.oldRef p.newRef)
  else none

/-- The path of the endpoint, relative to the base of the service. -/
def path : Target → String
  | .foreignKeys .. => "fk/compare" | .macrobench .. => "macrobench/compare"

/-- The named values sent to the endpoint. -/
def fields : Target → List (String × String)
  | .foreignKeys sha oldWorkload newWorkload =>
    [("sha", sha), ("oldWorkload", oldWorkload), ("newWorkload", newWorkload)]
  | .macrobench old new => [("old", old), ("new", new)]

/-- The path of the endpoint with its query string. -/
def endpoint (t : Target) : String := t.path ++ "?" ++ Form.encode t.fields

end Target

end BenchCompare
