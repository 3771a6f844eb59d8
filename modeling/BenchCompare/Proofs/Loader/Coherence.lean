import BenchCompare.Proofs.Loader.Run

/-!
# Coherent loaders

* `Loader.Numbered n requests`: the generations of the requests increase and go up to `n`.
* `Loader.Coherent l requests`: the inputs, the target and the status of `l` fit together, and so do the requests
  that it has made. `Coherent.moves` is the step, `coherent_mount` the start and `coherent_run` the whole run.

Main statement: `run_mount_consistent`.
-/

namespace BenchCompare.Loader

/-! ### The requests of a run -/

/-- Requests in the order of their generations, which go up to `n`, each for a target with all its refs. -/
structure Numbered (n : Nat) (requests : List Request) : Prop where
  le : ∀ r ∈ requests, r.generation ≤ n
  increasing : requests.Pairwise (·.generation < ·.generation)
  hasRefs : ∀ r ∈ requests, r.target.HasRefs

theorem Numbered.succ {n : Nat} {requests : List Request} (h : Numbered n requests) : Numbered (n + 1) requests :=
  ⟨fun r hr => Nat.le_succ_of_le (h.le r hr), h.increasing, h.hasRefs⟩

theorem Numbered.append {n : Nat} {requests : List Request} {t : Target} (h : Numbered n requests)
    (ht : t.HasRefs) : Numbered (n + 1) (requests ++ [⟨n + 1, t⟩]) := by
  refine ⟨?_, ?_, ?_⟩
  · intro r hr
    rcases List.mem_append.1 hr with hr | hr
    · exact Nat.le_succ_of_le (h.le r hr)
    · exact Nat.le_of_eq (congrArg _ (List.mem_singleton.1 hr))
  · rw [List.pairwise_append]
    refine ⟨h.increasing, List.pairwise_singleton _ _, ?_⟩
    intro r hr r' hr'
    rw [List.mem_singleton.1 hr']
    exact Nat.lt_succ_of_le (h.le r hr)
  · intro r hr
    rcases List.mem_append.1 hr with hr | hr
    · exact h.hasRefs r hr
    · rw [List.mem_singleton.1 hr]
      exact ht

/-- The inputs, the target and the status of a loader fit together, and so do the requests that it has made. -/
structure Coherent (l : Loader) (requests : List Request) : Prop extends Numbered l.generation requests where
  target_eq : l.target = Target.ofParams? l.kind l.params
  notReady_iff : l.status = .notReady ↔ l.target = none
  /-- While there is a target, the last request asks for it in the present generation. -/
  last : ∀ t, l.target = some t → requests.getLast? = some ⟨l.generation, t⟩
  /-- Without a target no request is of the present generation. -/
  fenced : l.target = none → ∀ r ∈ requests, r.generation < l.generation

section Invariant

variable {l l' : Loader} {requests : List Request} {effects : List Effect}

theorem statusOf_ne_notReady (result : FetchResult) : statusOf result ≠ .notReady := by
  cases result <;> simp [statusOf]

theorem Coherent.takes {p : Params} (h : Coherent l requests) (hm : Takes l p l' effects) :
    Coherent l' (requests ++ requestsOf effects) := by
  cases hm with
  | keep ht =>
    rw [requestsOf_nil, List.append_nil]
    exact { h.toNumbered with
      target_eq := ht.symm, notReady_iff := h.notReady_iff, last := h.last, fenced := h.fenced }
  | @ask t ht hne =>
    refine { h.append (Target.hasRefs_of_ofParams? ht) with
      target_eq := ht.symm, notReady_iff := by simp, last := ?_, fenced := by simp }
    intro t' ht'
    obtain rfl := Option.some.inj ht'
    exact List.getLast?_concat
  | fence ht hne =>
    rw [requestsOf_nil, List.append_nil]
    exact { h.succ with
      target_eq := ht.symm, notReady_iff := by simp, last := by simp
      fenced := fun _ r hr => Nat.lt_succ_of_le (h.le r hr) }

/-- **Every event keeps a loader coherent with its requests.** -/
theorem Coherent.moves {e : Event} (h : Coherent l requests) (hm : Moves l e l' effects) :
    Coherent l' (requests ++ requestsOf effects) := by
  cases hm with
  | same | idle | drop => rwa [requestsOf_nil, List.append_nil]
  | publish _ ht =>
    rw [requestsOf_writeAddress]
    exact h.takes ht
  | @again t ht =>
    have hp : Target.ofParams? l.kind l.params = some t := h.target_eq ▸ ht
    refine { h.append (Target.hasRefs_of_ofParams? hp) with
      target_eq := hp.symm, notReady_iff := by simp, last := ?_, fenced := by simp }
    intro t' ht'
    obtain rfl := Option.some.inj ht'
    exact List.getLast?_concat
  | @answer result hl =>
    have hne : l.target ≠ none := fun hn => by simp [h.notReady_iff.2 hn] at hl
    rw [requestsOf_nil, List.append_nil]
    exact { h.toNumbered with
      target_eq := h.target_eq, notReady_iff := by simp [statusOf_ne_notReady, hne], last := h.last
      fenced := h.fenced }

/-- The last request is of the present generation exactly while there is a target, which it asks for. -/
theorem Coherent.last_iff (h : Coherent l requests) (r : Request) :
    requests.getLast? = some r ∧ r.generation = l.generation ↔
      l.target = some r.target ∧ r.generation = l.generation := by
  constructor
  · rintro ⟨hr, hg⟩
    cases ht : l.target with
    | none => exact absurd hg (Nat.ne_of_lt (h.fenced ht r (List.mem_of_getLast? hr)))
    | some t =>
      obtain rfl := Option.some.inj ((h.last t ht).symm.trans hr)
      exact ⟨rfl, rfl⟩
  · rintro ⟨ht, hg⟩
    refine ⟨?_, hg⟩
    rw [h.last r.target ht, ← hg]

theorem coherent_empty (kind : Kind) : Coherent { kind } [] where
  le := by simp
  increasing := .nil
  hasRefs := by simp
  target_eq := by simp [Target.ofParams?, Params.Ready]
  notReady_iff := by simp
  last := by simp
  fenced := by simp

theorem coherent_mount (kind : Kind) (query : String) :
    Coherent (mount kind query).1 (requestsOf (mount kind query).2) := by
  have h := (coherent_empty kind).takes (takes_commit { kind } (Query.read kind query))
  simpa only [mount, publish_eq, requestsOf_writeAddress, List.nil_append] using h

theorem Coherent.advance {s : Loader × List Effect} (h : Coherent s.1 (requestsOf s.2)) (e : Event) :
    Coherent (advance s e).1 (requestsOf (advance s e).2) := by
  have := h.moves (moves_step s.1 e)
  rwa [← requestsOf_append] at this

theorem coherent_run {s : Loader × List Effect} (h : Coherent s.1 (requestsOf s.2)) (es : List Event) :
    Coherent (run s es).1 (requestsOf (run s es).2) := by
  induction es generalizing s with
  | nil => exact h
  | cons e es ih => exact ih (h.advance e)

end Invariant

/-! ### Runs from the start -/

theorem kind_mount (kind : Kind) (query : String) : (mount kind query).1.kind = kind := by
  simp only [mount, publish_eq]
  exact (takes_commit { kind } (Query.read kind query)).kind_eq

theorem params_mount (kind : Kind) (query : String) : (mount kind query).1.params = Query.read kind query := by
  simp only [mount, publish_eq]
  exact (takes_commit { kind } (Query.read kind query)).params_eq

theorem kind_run (s : Loader × List Effect) (es : List Event) : (run s es).1.kind = s.1.kind := by
  induction es generalizing s with
  | nil => rfl
  | cons e es ih => exact (ih (advance s e)).trans (moves_step s.1 e).kind_eq

theorem status_mount {kind : Kind} {query : String} {t : Target} (ht : (mount kind query).1.target = some t) :
    (mount kind query).1.status = .loading := by
  simp only [mount, publish_eq] at ht ⊢
  exact (takes_commit { kind } (Query.read kind query)).status_eq_loading rfl ht

theorem map_target_requestsOf_mount (kind : Kind) (query : String) :
    (requestsOf (mount kind query).2).map (·.target) = (mount kind query).1.target.toList := by
  simp only [mount, publish_eq, requestsOf_writeAddress]
  exact (takes_commit { kind } (Query.read kind query)).map_target_requestsOf rfl

theorem generation_mount_le (kind : Kind) (query : String) : (mount kind query).1.generation ≤ 1 := by
  simp only [mount, publish_eq]
  exact (takes_commit { kind } (Query.read kind query)).generation_le.2

/-- **The parts of a loader agree after every run.** The target is that of the inputs, the loader is not ready
exactly without one, the last request is for the target in the present generation, generations increase from
request to request, and no request lacks a ref. A run uses no more generations than events, and one for the
start. -/
theorem run_mount_consistent (kind : Kind) (query : String) (es : List Event) :
    let s := run (mount kind query) es
    s.1.target = Target.ofParams? kind s.1.params ∧
    (s.1.status = .notReady ↔ s.1.target = none) ∧
    (∀ t, s.1.target = some t → (requestsOf s.2).getLast? = some ⟨s.1.generation, t⟩) ∧
    (requestsOf s.2).Pairwise (·.generation < ·.generation) ∧
    (∀ r ∈ requestsOf s.2, r.target.HasRefs) ∧
    s.1.generation ≤ es.length + 1 := by
  intro s
  have h : Coherent s.1 (requestsOf s.2) := coherent_run (coherent_mount kind query) es
  have hkind : s.1.kind = kind := (kind_run _ es).trans (kind_mount kind query)
  have hgen : s.1.generation ≤ es.length + 1 := by
    have h1 : s.1.generation ≤ _ := generation_run_le (mount kind query) es
    have h2 := generation_mount_le kind query
    omega
  exact ⟨hkind ▸ h.target_eq, h.notReady_iff, h.last, h.increasing, h.hasRefs, hgen⟩

end BenchCompare.Loader
