import BenchCompare.Api.Failure
import BenchCompare.Query.Basic
import BenchCompare.Report.Basic

/-!
# Loading a comparison

`Loader` keeps the inputs of a comparison page and the comparison that is shown for them. Every request has a
generation of its own, and a result counts only while its generation is the latest and still awaited. The
transitions give the effects that the page has to carry out, in order.
-/

namespace BenchCompare

/-- What the page shows. -/
inductive Status where
  /-- A ref is missing, so nothing was asked for. -/
  | notReady
  | loading
  | failed (message : String)
  | ready (report : Report)

/-- A request for the comparison of one target. -/
structure Request where
  generation : Nat
  target : Target
deriving DecidableEq, Repr

/-- What the page has to do. -/
inductive Effect where
  | writeAddress (params : Params)
  | fetch (request : Request)
deriving DecidableEq, Repr

/-- What came of a request. -/
abbrev FetchResult := Except Failure Payload

structure Loader where
  kind : Kind
  params : Params := {}
  target : Option Target := none
  generation : Nat := 0
  status : Status := .notReady

namespace Loader

def isLoading (l : Loader) : Bool :=
  match l.status with
  | .loading => true
  | _ => false

/-- Asks for a target in a new generation. -/
def issue (l : Loader) (t : Target) : Loader × List Effect :=
  ({ l with generation := l.generation + 1, target := some t, status := .loading },
    [.fetch ⟨l.generation + 1, t⟩])

/-- Takes over inputs. A new target is asked for; without one, requests under way are fenced off. -/
def commit (l : Loader) (p : Params) : Loader × List Effect :=
  let next := { l with params := p }
  let target := Target.ofParams? l.kind p
  if target = l.target then (next, [])
  else match target with
    | some t => next.issue t
    | none => ({ next with target := none, generation := l.generation + 1, status := .notReady }, [])

/-- Writes inputs to the address bar, then takes them over. -/
def publish (l : Loader) (p : Params) : Loader × List Effect :=
  let (next, effects) := l.commit p
  (next, .writeAddress p :: effects)

/-- A page that is opened with this query. -/
def mount (kind : Kind) (query : String) : Loader × List Effect :=
  Loader.publish { kind } (Query.read kind query)

/-- Sets one of the inputs. -/
def change (l : Loader) (c : Change) : Loader × List Effect :=
  if l.params.apply c = l.params then (l, []) else l.publish (l.params.apply c)

/-- Asks for the current target again. -/
def reload (l : Loader) : Loader × List Effect :=
  match l.target with
  | some t => l.issue t
  | none => (l, [])

/-- What is shown for the result of a request. -/
def statusOf : FetchResult → Status
  | .ok payload => .ready (Report.ofPayload payload)
  | .error failure => .failed failure.userMessage

/-- The result of this generation is awaited. -/
def awaits (l : Loader) (generation : Nat) : Bool := generation == l.generation && l.isLoading

/-- Takes in a result, and says whether it counts. -/
def complete (l : Loader) (generation : Nat) (result : FetchResult) : Loader × Bool :=
  if l.awaits generation then ({ l with status := statusOf result }, true) else (l, false)

end Loader

end BenchCompare
