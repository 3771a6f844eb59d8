import BenchCompare.Proofs.Loader.Coherence

/-!
# The effects of changes

* `Target.arrival? before after`: the target that comes with a move from one possible target to another.
* `Target.arrivals`: all targets that come in a sequence of possible targets.
* `Takes.target_eq`, `Takes.effects_eq`, `Takes.eq_of_target`: taking over inputs asks for the target that comes with
  them and does nothing else, and only the inputs change while the target stays.
* `Loader.targetsOn`: the possible targets of the inputs along a list of events.
* `Moves.requestsOf_eq`, `Moves.targets_eq`, `targets_run`: an event other than a reload asks for the target that comes
  with it, and a run without reloads for the targets that come along it.

Main statement: `run_mount_effects_derived`.
-/

namespace BenchCompare

namespace Target

/-- The target that comes with a move between possible targets: one that is there and was not there before. -/
def arrival? (before after : Option Target) : Option Target := if after = before then none else after

def arrivals (ts : List (Option Target)) : List Target := (ts.zip ts.tail).filterMap fun x => arrival? x.1 x.2

theorem arrival?_self (t : Option Target) : arrival? t t = none := if_pos rfl

theorem arrival?_none_left (after : Option Target) : arrival? none after = after := by
  cases after <;> rfl

theorem arrival?_none_right (before : Option Target) : arrival? before none = none := by
  unfold arrival?
  split <;> rfl

theorem arrival?_of_ne {before after : Option Target} (h : after ≠ before) : arrival? before after = after := if_neg h

theorem arrivals_cons_cons (t t' : Option Target) (ts : List (Option Target)) :
    arrivals (t :: t' :: ts) = (arrival? t t').toList ++ arrivals (t' :: ts) := by
  rw [arrivals, List.tail_cons, List.zip_cons_cons, List.filterMap_cons]
  cases arrival? t t' <;> rfl

end Target

namespace Loader

open Target (arrival? arrivals)

variable {l l' : Loader} {effects : List Effect}

/-! ### Taking over inputs -/

section Takes

variable {p : Params}

theorem Takes.target_eq (hm : Takes l p l' effects) : l'.target = Target.ofParams? l.kind p := by
  cases hm with
  | keep h | ask h | fence h => exact h.symm

/-- The effects are the request for the target that comes with the inputs, if one comes. -/
theorem Takes.effects_eq (hm : Takes l p l' effects) :
    effects = (arrival? l.target (Target.ofParams? l.kind p)).toList.map fun t => .fetch ⟨l.generation + 1, t⟩ := by
  cases hm with
  | keep h => rw [h, Target.arrival?_self]; rfl
  | ask h hne => rw [h, Target.arrival?_of_ne hne.symm]; rfl
  | fence h => rw [h, Target.arrival?_none_right]; rfl

/-- Nothing else changes while the target stays the same. -/
theorem Takes.eq_of_target (hm : Takes l p l' effects) (h : Target.ofParams? l.kind p = l.target) :
    l' = { l with params := p } := by
  cases hm with
  | keep => rfl
  | ask ht hne | fence ht hne => exact absurd (h.symm.trans ht) hne

theorem takes_change {c : Change} (h : l.params.apply c ≠ l.params) : ∃ effects,
    (l.change c).2 = .writeAddress (l.params.apply c) :: effects ∧
    Takes l (l.params.apply c) (l.change c).1 effects := by
  rw [change, if_neg h, publish_eq]
  exact ⟨_, rfl, takes_commit l _⟩

end Takes

/-! ### Runs without reloads -/

/-- An event other than a reload makes a request exactly if a target comes with it, and in the next generation. -/
theorem Moves.requestsOf_eq {e : Event} (hm : Moves l e l' effects) (he : e ≠ .reload) :
    requestsOf effects = (arrival? l.target l'.target).toList.map fun t => ⟨l.generation + 1, t⟩ := by
  cases hm with
  | same | answer | drop => rw [Target.arrival?_self]; rfl
  | publish _ ht =>
    rw [requestsOf_writeAddress, ht.effects_eq, ht.target_eq]
    cases arrival? l.target (Target.ofParams? l.kind _) <;> rfl
  | again | idle => exact absurd rfl he

/-- An event other than a reload asks for the target that comes with it. -/
theorem Moves.targets_eq {e : Event} (hm : Moves l e l' effects) (he : e ≠ .reload) :
    (requestsOf effects).map (·.target) = (arrival? l.target l'.target).toList := by
  rw [hm.requestsOf_eq he, List.map_map]
  exact List.map_id _

theorem Moves.status_eq_loading {e : Event} (hm : Moves l e l' effects) {t : Target}
    (ht : arrival? l.target l'.target = some t) : l'.status = .loading := by
  have hmoved : l'.target ≠ l.target := by
    intro heq
    rw [heq, Target.arrival?_self] at ht
    cases ht
  cases hm with
  | same | idle | answer | drop => exact absurd rfl hmoved
  | again => rfl
  | publish _ htakes =>
    cases htakes with
    | keep => exact absurd rfl hmoved
    | ask => rfl
    | fence =>
      rw [Target.arrival?_none_right] at ht
      cases ht

/-- The possible targets of the inputs before a list of events and after each of them. -/
def targetsOn (kind : Kind) (p : Params) (es : List Event) : List (Option Target) :=
  (es.scanl Event.inputs p).map (Target.ofParams? kind)

theorem arrivals_cons_targetsOn (t : Option Target) (kind : Kind) (p : Params) (es : List Event) :
    arrivals (t :: targetsOn kind p es) =
      (arrival? t (Target.ofParams? kind p)).toList ++ arrivals (targetsOn kind p es) := by
  cases es with
  | nil => rw [targetsOn, List.scanl_nil, List.map_singleton, Target.arrivals_cons_cons]
  | cons e es => rw [targetsOn, List.scanl_cons, List.map_cons, Target.arrivals_cons_cons]

/-- **A run without reloads asks for the targets that come with its inputs.** -/
theorem targets_run {s : Loader × List Effect} (h : Coherent s.1 (requestsOf s.2)) {es : List Event}
    (hes : .reload ∉ es) : (requestsOf (run s es).2).map (·.target) =
      (requestsOf s.2).map (·.target) ++ arrivals (targetsOn s.1.kind s.1.params es) := by
  induction es generalizing s with
  | nil => exact (List.append_nil _).symm
  | cons e es ih =>
    rw [List.mem_cons, not_or] at hes
    have hm : Moves s.1 e (advance s e).1 (s.1.step e).2 := moves_step s.1 e
    have hnext : Coherent (advance s e).1 (requestsOf (advance s e).2) := h.advance e
    have hrequests : (requestsOf (advance s e).2).map (·.target) =
        (requestsOf s.2).map (·.target) ++ (arrival? s.1.target (advance s e).1.target).toList := by
      rw [← hm.targets_eq (Ne.symm hes.1), ← List.map_append, ← requestsOf_append]
      rfl
    have hkeys : targetsOn s.1.kind s.1.params (e :: es) =
        s.1.target :: targetsOn (advance s e).1.kind (advance s e).1.params es := by
      rw [hm.kind_eq, hm.params_eq, h.target_eq, targetsOn, List.scanl_cons, List.map_cons, targetsOn]
    calc (requestsOf (run s (e :: es)).2).map (·.target)
      _ = (requestsOf (advance s e).2).map (·.target) ++
            arrivals (targetsOn (advance s e).1.kind (advance s e).1.params es) := ih hnext hes.2
      _ = (requestsOf s.2).map (·.target) ++ arrivals (targetsOn s.1.kind s.1.params (e :: es)) := by
          rw [hrequests, hkeys, arrivals_cons_targetsOn, ← hnext.target_eq, List.append_assoc]

theorem targets_run_mount (kind : Kind) (query : String) {es : List Event} (hes : .reload ∉ es) :
    (requestsOf (run (mount kind query) es).2).map (·.target) =
      arrivals (none :: targetsOn kind (Query.read kind query) es) := by
  have hc := coherent_mount kind query
  rw [targets_run hc hes, map_target_requestsOf_mount, hc.target_eq, kind_mount, params_mount,
    arrivals_cons_targetsOn, Target.arrival?_none_left]

/-- **The effects of a change are exactly the derived ones.** After every run, a change that changes nothing has no
effect. Any other one is written to the address bar, and then asks for the new target if the inputs have one that
differs from the target before; nothing but the inputs changes while the target stays the same. So a run without
reloads makes as many requests as the sequence of its possible targets, from none, moves to another target. -/
theorem run_mount_effects_derived (kind : Kind) (query : String) (es : List Event) :
    let s := run (mount kind query) es
    s.1.target = Target.ofParams? kind s.1.params ∧
    (∀ c, s.1.params.apply c = s.1.params → s.1.change c = (s.1, [])) ∧
    (∀ c, s.1.params.apply c ≠ s.1.params →
      let next := s.1.change c
      let target := Target.ofParams? kind (s.1.params.apply c)
      next.1.params = s.1.params.apply c ∧ next.1.target = target ∧
      next.2 = .writeAddress (s.1.params.apply c) ::
        ((arrival? s.1.target target).toList.map fun t => .fetch ⟨s.1.generation + 1, t⟩) ∧
      (target = s.1.target → next.1.generation = s.1.generation ∧ next.1.status = s.1.status)) ∧
    (.reload ∉ es →
      (requestsOf s.2).map (·.target) = arrivals (none :: targetsOn kind (Query.read kind query) es) ∧
      (requestsOf s.2).length = (arrivals (none :: targetsOn kind (Query.read kind query) es)).length) := by
  intro s
  have hc : Coherent s.1 (requestsOf s.2) := coherent_run (coherent_mount kind query) es
  have hkind : s.1.kind = kind := (kind_run _ es).trans (kind_mount kind query)
  refine ⟨hkind ▸ hc.target_eq, fun c hsame => if_pos hsame, ?_, ?_⟩
  · intro c hne next target
    obtain ⟨effects, heffects, ht⟩ := takes_change hne
    have htarget : Target.ofParams? s.1.kind (s.1.params.apply c) = target := by rw [hkind]
    refine ⟨ht.params_eq, ht.target_eq.trans htarget, ?_, ?_⟩
    · rw [heffects, ht.effects_eq, htarget]
    · intro hsame
      rw [ht.eq_of_target (htarget.trans hsame)]
      exact ⟨rfl, rfl⟩
  · intro hes
    have htargets := targets_run_mount kind query hes
    refine ⟨htargets, ?_⟩
    rw [← htargets, List.length_map]

/-- A ref is set, a value that the target does not use follows, and the ref is cleared and set again. -/
def returning : List Event :=
  [.change (.oldRef "a"), .change (.newRef "b"), .complete 1 (.error (.transport "")), .change (.oldRef ""),
    .change (.oldRef "a")]

theorem run_mount_effects_returning :
    let s := run (mount .foreignKeys "") returning
    s.1.params.apply (.newRef "b") = s.1.params ∧ s.1.change (.newRef "b") = (s.1, []) ∧
    s.1.params.apply (.oldRef "c") ≠ s.1.params ∧
    (s.1.change (.oldRef "c")).2 =
      [.writeAddress { oldRef := "c", newRef := "b" }, .fetch ⟨4, .foreignKeys "c" "" ""⟩] ∧
    .reload ∉ returning ∧
    (requestsOf s.2).map (·.target) = [.foreignKeys "a" "" "", .foreignKeys "a" "" ""] := by
  intro s
  obtain ⟨-, hsame, hother, hrun⟩ := run_mount_effects_derived .foreignKeys "" returning
  have hb : s.1.params.apply (.newRef "b") = s.1.params := by decide +kernel
  have hc : s.1.params.apply (.oldRef "c") ≠ s.1.params := by decide +kernel
  have hreload : .reload ∉ returning := by simp [returning]
  refine ⟨hb, hsame _ hb, hc, (hother _ hc).2.2.1.trans ?_, hreload, (hrun hreload).1.trans ?_⟩
  · decide +kernel
  · decide +kernel

end Loader

end BenchCompare
