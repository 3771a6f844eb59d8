import BenchCompare.Page
import BenchCompare.Proofs.AddressBar.History
import BenchCompare.Proofs.Loader.Coherence

/-!
# Runs of a page

* `Page.step`, `Page.run`: the effect of one event and of a list of events on a page.
* `loader_step`, `requests_step`, `address_step`: a page moves as its loader does, keeps the requests that the
  loader makes and follows it in the address bar. `loader_mount`, `requests_mount` and `address_mount` say the
  same of a page that has just been opened.
* `params_run`, `page_address_run`: what a run does to the inputs, and that it does not leave the page.
* `coherent_run`: after every run the loader is coherent with the requests of the page.
-/

namespace BenchCompare

open Loader (Event Takes Moves Coherent takes_commit moves_step)

/-- What an effect of a page of this kind does to its address bar. -/
def AddressBar.follow (kind : Kind) (a : AddressBar) : Effect → AddressBar
  | .writeAddress p => a.navigate (Query.write kind a.query p)
  | .fetch _ => a

/-- Effects that come of taking over inputs do not touch the address bar. -/
theorem Loader.Takes.foldl_follow {l l' : Loader} {p : Params} {effects : List Effect} (hm : Takes l p l' effects)
    (kind : Kind) (a : AddressBar) : effects.foldl (AddressBar.follow kind) a = a := by
  cases hm <;> rfl

namespace Page

def step (p : Page) : Event → Page
  | .change c => p.change c
  | .reload => p.reload
  | .complete generation result => (p.complete generation result).1

def run (p : Page) (es : List Event) : Page := es.foldl step p

theorem run_append (p : Page) (es es' : List Event) : p.run (es ++ es') = (p.run es).run es' := List.foldl_append

theorem run_concat (p : Page) (es : List Event) (e : Event) : p.run (es ++ [e]) = (p.run es).step e :=
  run_append p es [e]

/-- Every event is an event of the loader, with its effects carried out. -/
theorem step_eq (p : Page) (e : Event) : p.step e = p.continueWith (p.loader.step e) := by
  cases e <;> rfl

/-! ### Carrying out effects -/

@[simp] theorem loader_perform (p : Page) (e : Effect) : (p.perform e).loader = p.loader := by
  cases e <;> simp only [perform]

@[simp] theorem kind_perform (p : Page) (e : Effect) : (p.perform e).kind = p.kind := by
  rw [kind, loader_perform, kind]

@[simp] theorem address_perform (p : Page) (e : Effect) : (p.perform e).address = p.address.follow p.kind e := by
  cases e <;> simp only [perform, AddressBar.follow]

theorem requests_perform (p : Page) (e : Effect) : (p.perform e).requests = p.requests ++ requestsOf [e] := by
  cases e with
  | writeAddress params =>
    simp only [perform]
    exact (List.append_nil _).symm
  | fetch request => rfl

theorem loader_foldl_perform (p : Page) (effects : List Effect) : (effects.foldl perform p).loader = p.loader := by
  induction effects generalizing p with
  | nil => rfl
  | cons e effects ih => rw [List.foldl_cons, ih, loader_perform]

theorem requests_foldl_perform (p : Page) (effects : List Effect) :
    (effects.foldl perform p).requests = p.requests ++ requestsOf effects := by
  induction effects generalizing p with
  | nil => exact (List.append_nil _).symm
  | cons e effects ih =>
    rw [List.foldl_cons, ih, requests_perform, List.append_assoc, ← requestsOf_append, List.singleton_append]

theorem address_foldl_perform (p : Page) (effects : List Effect) :
    (effects.foldl perform p).address = effects.foldl (AddressBar.follow p.kind) p.address := by
  induction effects generalizing p with
  | nil => rfl
  | cons e effects ih => rw [List.foldl_cons, ih, kind_perform, address_perform, List.foldl_cons]

section Step

variable (p : Page) (e : Event)

theorem loader_step : (p.step e).loader = (p.loader.step e).1 := by
  rw [step_eq, continueWith, loader_foldl_perform]

theorem requests_step : (p.step e).requests = p.requests ++ requestsOf (p.loader.step e).2 := by
  rw [step_eq, continueWith, requests_foldl_perform]

theorem address_step : (p.step e).address = (p.loader.step e).2.foldl (AddressBar.follow p.kind) p.address := by
  rw [step_eq, continueWith, address_foldl_perform]
  have hkind : (p.loader.step e).1.kind = p.kind := (moves_step p.loader e).kind_eq
  rw [kind, hkind]

theorem kind_step : (p.step e).kind = p.kind := by
  rw [kind, loader_step]
  exact (moves_step p.loader e).kind_eq

theorem params_step : (p.step e).params = e.inputs p.params := by
  rw [params, loader_step]
  exact (Loader.moves_step p.loader e).params_eq

/-- The loader of the page moves, and the page keeps the requests of that move. -/
theorem moves_step : ∃ effects, Moves p.loader e (p.step e).loader effects ∧
    (p.step e).requests = p.requests ++ requestsOf effects ∧
    (p.step e).address = effects.foldl (AddressBar.follow p.kind) p.address :=
  ⟨_, loader_step p e ▸ Loader.moves_step p.loader e, requests_step p e, address_step p e⟩

end Step

/-! ### Opening a page -/

section Mount

variable (kind : Kind) (address : AddressBar)

theorem loader_mount : (mount kind address).loader = (Loader.mount kind address.query).1 := by
  rw [mount, continueWith, loader_foldl_perform]

theorem requests_mount : (mount kind address).requests = requestsOf (Loader.mount kind address.query).2 := by
  rw [mount, continueWith, requests_foldl_perform]
  exact List.nil_append _

theorem kind_mount : (mount kind address).kind = kind := by
  rw [Page.kind, loader_mount, Loader.kind_mount]

/-- Opening a page writes the inputs that it has read back to its address bar. -/
theorem address_mount : (mount kind address).address =
    address.navigate (Query.write kind address.query (Query.read kind address.query)) := by
  have hfollow := (takes_commit { kind } (Query.read kind address.query)).foldl_follow kind
  rw [mount, continueWith, address_foldl_perform]
  simp only [Page.kind, Loader.kind_mount]
  rw [Loader.mount, Loader.publish_eq, List.foldl_cons, hfollow]
  rfl

theorem coherent_mount : Coherent (mount kind address).loader (mount kind address).requests := by
  rw [loader_mount, requests_mount]
  exact Loader.coherent_mount kind address.query

end Mount

/-! ### Whole runs -/

theorem kind_run (p : Page) (es : List Event) : (p.run es).kind = p.kind := by
  induction es generalizing p with
  | nil => rfl
  | cons e es ih => exact (ih (p.step e)).trans (kind_step p e)

theorem params_run (p : Page) (es : List Event) : (p.run es).params = es.foldl Event.inputs p.params := by
  induction es generalizing p with
  | nil => rfl
  | cons e es ih =>
    rw [List.foldl_cons, ← params_step]
    exact ih (p.step e)

theorem Coherent.step {p : Page} (h : Coherent p.loader p.requests) (e : Event) :
    Coherent (p.step e).loader (p.step e).requests := by
  obtain ⟨effects, hm, hr, -⟩ := moves_step p e
  rw [hr]
  exact h.moves hm

/-- **After every run the loader is coherent with the requests of the page.** -/
theorem coherent_run {p : Page} (h : Coherent p.loader p.requests) (es : List Event) :
    Coherent (p.run es).loader (p.run es).requests := by
  induction es generalizing p with
  | nil => exact h
  | cons e es ih => exact ih (Coherent.step h e)

end Page

end BenchCompare
