import BenchCompare.Params
import BenchCompare.Query.Form
import BenchCompare.Text.Blank

/-!
# Comparison inputs in a query string

* `Query.read`: the inputs that a query string holds. A missing value is empty, and the first of several counts.
* `Query.write`: a query string with the inputs written into it. Pairs of other names stay where they are, the
  first pair of each own name takes the new value, later ones go, and missing ones come last.
-/

namespace BenchCompare.Query

/-- The query without blank space around it and question marks in front. -/
def clean (query : String) : String :=
  String.ofList ((Text.trimChars query.toList).dropWhile (· == '?'))

def pairs (query : String) : List (String × String) := Form.decode (clean query)

/-- The inputs that a query string holds. -/
def read (kind : Kind) (query : String) : Params :=
  let ps := pairs query
  let get (name : String) : String := (ps.lookup name).getD ""
  { oldRef := ((ps.lookup kind.oldRefName).or (ps.lookup kind.oldRefAlias)).getD ""
    newRef := get "new", oldWorkload := get "oldWorkload", newWorkload := get "newWorkload" }

/-- The pairs that hold the inputs. -/
def ownPairs (kind : Kind) (p : Params) : List (String × String) :=
  [(kind.oldRefName, p.oldRef), ("new", p.newRef), ("oldWorkload", p.oldWorkload), ("newWorkload", p.newWorkload)]

/-- The pairs with the values of `own` written over them. A value that has been written leaves `own`, and a
name in `done` has had its value written. -/
def overwrite (own : List (String × String)) (done : List String) :
    List (String × String) → List (String × String)
  | [] => own
  | (name, value) :: rest =>
    match own.lookup name with
    | some v => (name, v) :: overwrite (own.filter (·.1 != name)) (name :: done) rest
    | none => if name ∈ done then overwrite own done rest else (name, value) :: overwrite own done rest

/-- The query string with the inputs written into it. -/
def write (kind : Kind) (current : String) (p : Params) : String :=
  Form.encode (overwrite (ownPairs kind p) [] (pairs current))

end BenchCompare.Query
