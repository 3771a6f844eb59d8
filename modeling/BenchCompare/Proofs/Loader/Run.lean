import BenchCompare.Loader

/-!
# Runs of a loader

* `Loader.Event`, `Loader.step`, `Loader.run`: what may happen to a loader, the effect of one event and of a list
  of events. A run collects the effects of all its events.
* `Loader.Takes`, `Loader.Moves`: all that taking over inputs and that an event can do, as relations with one
  constructor for each case. `takes_commit` and `moves_step` say that nothing else happens.
* `Takes.map_target_requestsOf`: what the first inputs ask for.
* `Takes.kind_eq`, `Moves.kind_eq`, `Moves.params_eq`, `generation_run_le`: what stays, what becomes of the inputs,
  and how far generations go.
-/

namespace BenchCompare

def Effect.request? : Effect → Option Request
  | .writeAddress _ => none
  | .fetch request => some request

def requestsOf (effects : List Effect) : List Request := effects.filterMap Effect.request?

@[simp] theorem requestsOf_nil : requestsOf [] = [] := rfl

@[simp] theorem requestsOf_writeAddress (p : Params) (effects : List Effect) :
    requestsOf (.writeAddress p :: effects) = requestsOf effects := rfl

theorem requestsOf_append (a b : List Effect) : requestsOf (a ++ b) = requestsOf a ++ requestsOf b :=
  List.filterMap_append

namespace Target

def HasRefs : Target → Prop
  | .foreignKeys sha _ _ => sha ≠ ""
  | .macrobench old new => old ≠ "" ∧ new ≠ ""

theorem hasRefs_of_ofParams? {kind : Kind} {p : Params} {t : Target} (h : ofParams? kind p = some t) :
    t.HasRefs := by
  unfold ofParams? at h
  split at h
  · next hr =>
    obtain ⟨hold, hnew⟩ := hr
    obtain rfl := Option.some.inj h
    cases kind with
    | foreignKeys => exact hold
    | macrobench => exact ⟨hold, hnew rfl⟩
  · cases h

end Target

namespace Loader

inductive Event where
  | change (c : Change)
  | reload
  | complete (generation : Nat) (result : FetchResult)

/-- What an event does to the loader, and the effects that it has. -/
def step (l : Loader) : Event → Loader × List Effect
  | .change c => l.change c
  | .reload => l.reload
  | .complete generation result => ((l.complete generation result).1, [])

/-- One more event of a run, from the loader and the effects so far. -/
def advance (s : Loader × List Effect) (e : Event) : Loader × List Effect :=
  ((s.1.step e).1, s.2 ++ (s.1.step e).2)

/-- The loader after a list of events, with all effects up to then. -/
def run (s : Loader × List Effect) (es : List Event) : Loader × List Effect := es.foldl advance s

/-! ### All that can happen -/

/-- The ways of taking over inputs. -/
inductive Takes (l : Loader) (p : Params) : Loader → List Effect → Prop where
  /-- The target stays the same. -/
  | keep (h : Target.ofParams? l.kind p = l.target) : Takes l p { l with params := p } []
  /-- There is another target, which is asked for. -/
  | ask {t : Target} (h : Target.ofParams? l.kind p = some t) (hne : l.target ≠ some t) :
    Takes l p { l with params := p, target := some t, generation := l.generation + 1, status := .loading }
      [.fetch ⟨l.generation + 1, t⟩]
  /-- There is no target any more, and requests under way are fenced off. -/
  | fence (h : Target.ofParams? l.kind p = none) (hne : l.target ≠ none) :
    Takes l p { l with params := p, target := none, generation := l.generation + 1, status := .notReady } []

theorem takes_commit (l : Loader) (p : Params) : Takes l p (l.commit p).1 (l.commit p).2 := by
  unfold commit
  dsimp only
  split
  · next h => exact .keep h
  · next h =>
    split
    · next t ht => exact .ask ht fun hl => h (ht.trans hl.symm)
    · next ht => exact .fence ht fun hl => h (ht.trans hl.symm)

/-- Whatever becomes of the target, the inputs are taken over. -/
theorem Takes.params_eq {l l' : Loader} {p : Params} {effects : List Effect} (hm : Takes l p l' effects) :
    l'.params = p := by
  cases hm <;> rfl

theorem publish_eq (l : Loader) (p : Params) :
    l.publish p = ((l.commit p).1, .writeAddress p :: (l.commit p).2) := rfl

/-- The ways in which an event changes a loader. -/
inductive Moves (l : Loader) : Event → Loader → List Effect → Prop where
  /-- An input is set to the value that it has. -/
  | same {c : Change} (h : l.params.apply c = l.params) : Moves l (.change c) l []
  /-- An input is set to another value. -/
  | publish {c : Change} {l' : Loader} {effects : List Effect} (h : l.params.apply c ≠ l.params)
    (ht : Takes l (l.params.apply c) l' effects) :
    Moves l (.change c) l' (.writeAddress (l.params.apply c) :: effects)
  /-- The target is asked for again. -/
  | again {t : Target} (h : l.target = some t) :
    Moves l .reload { l with target := some t, generation := l.generation + 1, status := .loading }
      [.fetch ⟨l.generation + 1, t⟩]
  /-- There is no target to ask for. -/
  | idle (h : l.target = none) : Moves l .reload l []
  /-- The result that is awaited arrives. -/
  | answer {result : FetchResult} (h : l.status = .loading) :
    Moves l (.complete l.generation result) { l with status := statusOf result } []
  /-- A result arrives that is not awaited. -/
  | drop {generation : Nat} {result : FetchResult} (h : generation = l.generation → l.status ≠ .loading) :
    Moves l (.complete generation result) l []

theorem isLoading_iff (l : Loader) : l.isLoading = true ↔ l.status = .loading := by
  unfold isLoading
  split <;> simp_all

theorem awaits_iff (l : Loader) (generation : Nat) :
    l.awaits generation = true ↔ generation = l.generation ∧ l.status = .loading := by
  rw [awaits, Bool.and_eq_true, beq_iff_eq, isLoading_iff]

theorem moves_step (l : Loader) (e : Event) : Moves l e (l.step e).1 (l.step e).2 := by
  cases e with
  | change c =>
    simp only [step, change]
    split
    · next h => exact .same h
    · next h => exact .publish h (takes_commit l _)
  | reload =>
    simp only [step, reload]
    split
    · next t h => exact .again h
    · next h => exact .idle h
  | complete generation result =>
    simp only [step, complete]
    split
    · next h =>
      obtain ⟨rfl, hl⟩ := (awaits_iff l generation).1 h
      exact .answer hl
    · next h => exact .drop fun hg hl => h ((awaits_iff l generation).2 ⟨hg, hl⟩)

/-! ### The first inputs -/

section First

variable {l l' : Loader} {p : Params} {effects : List Effect}

theorem Takes.status_eq_loading (hm : Takes l p l' effects) (hn : l.target = none) {t : Target}
    (ht : l'.target = some t) : l'.status = .loading := by
  cases hm with
  | keep => exact absurd (hn.symm.trans ht) (by simp)
  | ask => rfl
  | fence => cases ht

/-- From a loader without a target, the new target is asked for, once. -/
theorem Takes.map_target_requestsOf (hm : Takes l p l' effects) (hn : l.target = none) :
    (requestsOf effects).map (·.target) = l'.target.toList := by
  cases hm with
  | keep => simp [hn]
  | ask => rfl
  | fence => rfl

end First

/-! ### What stays and what grows -/

section Steps

variable {l l' : Loader} {effects : List Effect}

theorem Takes.kind_eq {p : Params} (hm : Takes l p l' effects) : l'.kind = l.kind := by
  cases hm <;> rfl

theorem Takes.generation_le {p : Params} (hm : Takes l p l' effects) :
    l.generation ≤ l'.generation ∧ l'.generation ≤ l.generation + 1 := by
  cases hm <;> simp

theorem Moves.kind_eq {e : Event} (hm : Moves l e l' effects) : l'.kind = l.kind := by
  cases hm with
  | publish _ ht => exact ht.kind_eq
  | _ => rfl

theorem Moves.generation_le {e : Event} (hm : Moves l e l' effects) :
    l.generation ≤ l'.generation ∧ l'.generation ≤ l.generation + 1 := by
  cases hm with
  | publish _ ht => exact ht.generation_le
  | _ => simp

end Steps

def Event.inputs (p : Params) : Event → Params
  | .change c => p.apply c
  | _ => p

/-- Only the changes of the user touch the inputs. -/
theorem Moves.params_eq {l l' : Loader} {e : Event} {effects : List Effect} (hm : Moves l e l' effects) :
    l'.params = e.inputs l.params := by
  cases hm with
  | same h => exact h.symm
  | publish _ ht => exact ht.params_eq
  | _ => rfl

theorem Moves.requestsOf_eq_nil {l l' : Loader} {e : Event} {effects : List Effect} (hm : Moves l e l' effects)
    (ht : l'.target = none) : requestsOf effects = [] := by
  cases hm with
  | publish _ hp =>
    cases hp with
    | ask => cases ht
    | keep | fence => rfl
  | again => cases ht
  | _ => rfl

theorem generation_run_le (s : Loader × List Effect) (es : List Event) :
    (run s es).1.generation ≤ s.1.generation + es.length := by
  induction es generalizing s with
  | nil => exact Nat.le_refl _
  | cons e es ih =>
    have hstep := (moves_step s.1 e).generation_le.2
    have hrest := ih (advance s e)
    rw [List.length_cons]
    calc (run (advance s e) es).1.generation
      _ ≤ (s.1.step e).1.generation + es.length := hrest
      _ ≤ s.1.generation + (es.length + 1) := by omega

end Loader

end BenchCompare
