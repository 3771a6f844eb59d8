import BenchCompare.Json.Reader
import BenchCompare.Text.Search

/-!
# The catalog of refs

Known branches and releases with the commits they stand for, and the title of a commit: the name of the first
entry whose hash holds it, else its first characters.
-/

namespace BenchCompare

/-- A name for a commit. -/
structure Ref where
  name : String
  hash : String
deriving DecidableEq, Repr

inductive Group where
  | branches | releases
deriving DecidableEq, Repr

def Group.heading : Group → String
  | .branches => "Branches" | .releases => "Releases"

/-- An entry of the catalog. -/
structure Entry where
  group : Group
  ref : Ref
deriving DecidableEq, Repr

structure Catalog where
  branches : List Ref := []
  releases : List Ref := []
deriving DecidableEq, Repr

/-- The first characters of a commit. -/
def shortRef (value : String) : String := String.ofList (value.toList.take 8)

namespace Ref

open Json in
def ofJson? (v : Value) : Option Ref := do
  let s ← Source.ofValue? ["name", "commit_hash"] v
  some { name := ← s.get? "name" 0 Value.toText?, hash := ← s.get? "commit_hash" 1 Value.toText? }

open Json in
def toJson (r : Ref) : Value := .ofFields [("name", .text r.name), ("commit_hash", .text r.hash)]

end Ref

namespace Catalog

/-- Every branch, then every release. -/
def entries (c : Catalog) : List Entry :=
  c.branches.map (⟨.branches, ·⟩) ++ c.releases.map (⟨.releases, ·⟩)

def size (c : Catalog) : Nat := c.branches.length + c.releases.length

def isEmpty (c : Catalog) : Bool := c.branches.isEmpty && c.releases.isEmpty

/-- The name shown for a commit. -/
def title (c : Catalog) (value : String) : String :=
  if value = "" then ""
  else match c.entries.find? fun e => Text.occursIn value.toList e.ref.hash.toList with
    | some e => e.ref.name
    | none => shortRef value

open Json in
def ofJson? (v : Value) : Option Catalog := do
  let s ← Source.ofValue? ["branches", "tags"] v
  some {
    branches := ← s.getD? "branches" 0 (Value.toList? Ref.ofJson?) []
    releases := ← s.getD? "tags" 1 (Value.toList? Ref.ofJson?) [] }

open Json in
def toJson (c : Catalog) : Value :=
  .ofFields [("branches", .arr (c.branches.map Ref.toJson)), ("tags", .arr (c.releases.map Ref.toJson))]

/-- The catalog that a response body holds. -/
def ofBytes? (body : List UInt8) : Option Catalog := (Json.read? body).bind ofJson?

end Catalog

end BenchCompare
