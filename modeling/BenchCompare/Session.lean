import BenchCompare.Api.Client
import BenchCompare.App

/-!
# Sessions

A session is the dashboard together with the outcomes of its fetches. Every fetch is answered as soon as it is
asked for, and its outcome waits until it is delivered, in any order.
-/

namespace BenchCompare

/-- What answers the fetches of a session. The catalog may differ from one generation to the next. -/
structure Backend where
  catalog : Nat → Except Failure Catalog
  comparison : Target → FetchResult

/-- The service behind a client. -/
def Backend.ofClient (c : Client) (n : Network) : Backend :=
  { catalog := fun _ => c.fetchCatalog n, comparison := c.fetchComparison n }

def Backend.answer (b : Backend) : Fetch → Outcome
  | .catalog generation => .catalog generation (b.catalog generation)
  | .comparison request => .comparison request.generation (b.comparison request.target)

structure Session where
  app : App
  /-- The outcomes in the order in which they were asked for, `none` where one has been delivered. -/
  waiting : List (Option Outcome) := []
  /-- The targets of all comparison fetches and the generations of all catalog fetches. -/
  fetches : List Fetch := []

namespace Session

/-- The session after its dashboard has moved on. -/
def advance (s : Session) (b : Backend) (next : App) : Session :=
  let new := next.fetchesSince s.app
  { app := next, waiting := s.waiting ++ new.map fun f => some (b.answer f), fetches := s.fetches ++ new }

/-- The session of a dashboard that has just been opened. -/
def start (b : Backend) (a : App) : Session :=
  let new := a.fetchesAfter 0 0
  { app := a, waiting := new.map fun f => some (b.answer f), fetches := new }

def press (s : Session) (b : Backend) (k : Keystroke) : Session := s.advance b (s.app.press k)

def change (s : Session) (b : Backend) (c : Change) : Session := s.advance b (s.app.change c)

/-- Delivers one outcome at the time `now`, and says whether it counts, if it was still there. -/
def deliver (s : Session) (now : String) (i : Nat) : Session × Option Bool :=
  match s.waiting[i]? with
  | some (some o) =>
    let (app, applied) := s.app.receive now o
    ({ s with app, waiting := s.waiting.set i none }, some applied)
  | _ => (s, none)

/-- Delivers all outcomes in order at the time `now`, and says whether any counts. -/
def drain (s : Session) (now : String) : Session × Bool :=
  (List.range s.waiting.length).foldl (fun (s, any) i =>
    let (s, applied) := s.deliver now i
    (s, any || applied.getD false)) (s, false)

end Session

end BenchCompare
