import BenchCompare.Proofs.Page.Run
import Mathlib.Data.List.Induction

/-!
# The result that a page shows

Results may reach a page late, more than once, or under generations that it never used.

* `Page.resultsFor p request es`: the results that reach the page `p` during `es` under the generation of the
  request, once the page has made that request, oldest first.
* `Fresh.status_run`: from a page that has just been opened, the page shows the first result for its last request
  while there is a target.

Main statement: `shows_first_result`.
-/

namespace BenchCompare.Page

open Loader (Event Moves Coherent statusOf)

/-- The result that an event brings for a request that the page has made. -/
def arrival (p : Page) (request : Request) : Event → List FetchResult
  | .complete generation result => if generation = request.generation ∧ request ∈ p.requests then [result] else []
  | _ => []

/-- The results that reach the page during the events for a request that it has made by then, oldest first. -/
def resultsFor (p : Page) (request : Request) : List Event → List FetchResult
  | [] => []
  | e :: es => p.arrival request e ++ (p.step e).resultsFor request es

theorem resultsFor_concat (p : Page) (request : Request) (es : List Event) (e : Event) :
    p.resultsFor request (es ++ [e]) = p.resultsFor request es ++ (p.run es).arrival request e := by
  induction es generalizing p with
  | nil => exact List.append_nil _
  | cons a es ih =>
    rw [List.cons_append, resultsFor, ih, resultsFor, List.append_assoc]
    rfl

/-! ### Requests that have not been made -/

theorem requests_subset_run (p : Page) (es : List Event) : p.requests ⊆ (p.run es).requests := by
  induction es generalizing p with
  | nil => exact List.Subset.refl _
  | cons e es ih =>
    refine List.Subset.trans ?_ (ih (p.step e))
    rw [requests_step]
    exact List.subset_append_left _ _

theorem resultsFor_eq_nil {p : Page} {request : Request} {es : List Event} (h : request ∉ (p.run es).requests) :
    p.resultsFor request es = [] := by
  induction es generalizing p with
  | nil => rfl
  | cons e es ih =>
    have hp : request ∉ p.requests := fun hm => h (requests_subset_run p (e :: es) hm)
    have harrival : p.arrival request e = [] := by
      cases e with
      | complete generation result => exact if_neg fun hc => hp hc.2
      | _ => rfl
    rw [resultsFor, harrival, List.nil_append]
    exact ih h

/-! ### The status -/

/-- What is shown for the results of a request: the first one, if there is any. -/
def shown (results : List FetchResult) : Status :=
  match results with
  | [] => .loading
  | result :: _ => statusOf result

theorem shown_append_of_ne_nil {results : List FetchResult} (h : results ≠ []) (more : List FetchResult) :
    shown (results ++ more) = shown results := by
  cases results with
  | nil => exact absurd rfl h
  | cons result results => rfl

theorem statusOf_ne_loading (result : FetchResult) : statusOf result ≠ .loading := by
  cases result <;> simp [statusOf]

theorem shown_eq_loading_iff (results : List FetchResult) : shown results = .loading ↔ results = [] := by
  cases results with
  | nil => simp [shown]
  | cons result results => simp [shown, statusOf_ne_loading]

section Status

variable {p : Page} {e : Event} {l : Loader} {effects : List Effect} {results : Request → List FetchResult}

theorem notMem_of_generation_lt (h : Coherent p.loader p.requests) {request : Request}
    (hlt : p.loader.generation < request.generation) : request ∉ p.requests :=
  fun hm => Nat.not_lt.2 (h.le request hm) hlt

theorem mem_of_target (h : Coherent p.loader p.requests) {t : Target} (ht : p.loader.target = some t) :
    (⟨p.loader.generation, t⟩ : Request) ∈ p.requests := List.mem_of_getLast? (h.last t ht)

/-- If the page shows the first of the results so far, then it still does so after an event. -/
theorem shown_of_moves (hc : Coherent p.loader p.requests) (hm : Moves p.loader e l effects)
    (hnew : ∀ request ∉ p.requests, results request = [])
    (hs : ∀ t, p.loader.target = some t → p.loader.status = shown (results ⟨p.loader.generation, t⟩))
    (t : Target) (ht : l.target = some t) :
    l.status = shown (results ⟨l.generation, t⟩ ++ p.arrival ⟨l.generation, t⟩ e) := by
  have hfresh : results ⟨p.loader.generation + 1, t⟩ = [] :=
    hnew _ (notMem_of_generation_lt hc (Nat.lt_succ_self _))
  cases hm with
  | same | idle => exact (hs t ht).trans (congrArg shown (List.append_nil _).symm)
  | publish _ hm =>
    cases hm with
    | keep => exact (hs t ht).trans (congrArg shown (List.append_nil _).symm)
    | ask => simp only [hfresh, arrival, List.append_nil, shown]
    | fence => cases ht
  | again => simp only [hfresh, arrival, List.append_nil, shown]
  | @answer result hl =>
    have hnone : results ⟨p.loader.generation, t⟩ = [] := (shown_eq_loading_iff _).1 (hs t ht ▸ hl)
    have harrival : p.arrival ⟨p.loader.generation, t⟩ (.complete p.loader.generation result) = [result] :=
      if_pos ⟨rfl, mem_of_target hc ht⟩
    rw [hnone, harrival]
    rfl
  | @drop generation result hd =>
    by_cases hg : generation = p.loader.generation
    · have hsome : results ⟨p.loader.generation, t⟩ ≠ [] :=
        fun hn => hd hg ((hs t ht).trans ((shown_eq_loading_iff _).2 hn))
      rw [shown_append_of_ne_nil hsome]
      exact hs t ht
    · have harrival : p.arrival ⟨p.loader.generation, t⟩ (.complete generation result) = [] :=
        if_neg fun h => hg h.1
      rw [harrival, List.append_nil]
      exact hs t ht

end Status

/-! ### Pages that show no result yet -/

/-- A page that is coherent with its requests and shows no result yet. -/
structure Fresh (p : Page) : Prop where
  coherent : Coherent p.loader p.requests
  loading : ∀ t, p.loader.target = some t → p.status = .loading

theorem fresh_mount (kind : Kind) (address : AddressBar) : (mount kind address).Fresh := by
  refine ⟨coherent_mount kind address, fun t ht => ?_⟩
  rw [status]
  rw [loader_mount] at ht ⊢
  exact Loader.status_mount ht

/-- After the events the page still awaits a result of this generation: its last request is of the generation, no
later one has begun, and no result for it has come. -/
def Awaits (p : Page) (es : List Event) (generation : Nat) : Prop :=
  ∃ request, (p.run es).requests.getLast? = some request ∧ request.generation = (p.run es).loader.generation ∧
    generation = request.generation ∧ p.resultsFor request es = []

section Fresh

variable {p : Page} (h : p.Fresh) (es : List Event)
include h

/-- **While there is a target, the page shows the first result for its last request.** -/
theorem Fresh.status_run (t : Target) (ht : (p.run es).loader.target = some t) :
    (p.run es).status = shown (p.resultsFor ⟨(p.run es).loader.generation, t⟩ es) := by
  -- the last event decides, so the induction takes events off the end
  induction es using List.reverseRecOn generalizing t with
  | nil => exact h.loading t ht
  | append_singleton es e ih =>
    rw [run_concat] at ht ⊢
    obtain ⟨effects, hm, -, -⟩ := moves_step (p.run es) e
    rw [resultsFor_concat]
    have hnew : ∀ request ∉ (p.run es).requests, p.resultsFor request es = [] := fun _ => resultsFor_eq_nil
    exact shown_of_moves (coherent_run h.coherent es) hm hnew ih t ht

/-- A page that shows a result has got it for its last request, which is for the target of its inputs. -/
theorem Fresh.exists_result (hready : (p.run es).status ≠ .notReady) (hloading : (p.run es).status ≠ .loading) :
    ∃ request result more, (p.run es).requests.getLast? = some request ∧
      request.generation = (p.run es).loader.generation ∧
      Target.ofParams? p.kind (p.run es).params = some request.target ∧
      p.resultsFor request es = result :: more ∧ (p.run es).status = statusOf result := by
  have hc := coherent_run h.coherent es
  cases ht : (p.run es).loader.target with
  | none => exact absurd (hc.notReady_iff.2 ht) hready
  | some t =>
    have hs := h.status_run es t ht
    have htarget : Target.ofParams? p.kind (p.run es).params = some t := by
      rw [← ht, hc.target_eq, ← kind_run p es]
      rfl
    cases hr : p.resultsFor ⟨(p.run es).loader.generation, t⟩ es with
    | nil =>
      rw [hr] at hs
      exact absurd hs hloading
    | cons result more =>
      rw [hr] at hs
      exact ⟨_, result, more, hc.last t ht, rfl, htarget, hr, hs⟩

theorem Fresh.awaits_iff (generation : Nat) :
    p.Awaits es generation ↔ (p.run es).loader.awaits generation = true := by
  have hc := coherent_run h.coherent es
  have hs := h.status_run es
  rw [Loader.awaits_iff]
  constructor
  · rintro ⟨request, hlast, hg, rfl, hnone⟩
    obtain ⟨ht, -⟩ := (hc.last_iff request).1 ⟨hlast, hg⟩
    refine ⟨hg, (hs _ ht).trans ((shown_eq_loading_iff _).2 ?_)⟩
    rwa [← hg]
  · rintro ⟨rfl, hl⟩
    cases ht : (p.run es).loader.target with
    | none =>
      rw [hc.notReady_iff.2 ht] at hl
      cases hl
    | some t => exact ⟨_, hc.last t ht, rfl, rfl, (shown_eq_loading_iff _).1 ((hs t ht).symm.trans hl)⟩

end Fresh

theorem complete_of_awaits {p : Page} {generation : Nat} (h : p.loader.awaits generation = true)
    (result : FetchResult) :
    p.complete generation result = ({ p with loader := { p.loader with status := statusOf result } }, true) := by
  rw [complete, Loader.complete, if_pos h]

theorem complete_of_not_awaits {p : Page} {generation : Nat} (h : ¬ p.loader.awaits generation = true)
    (result : FetchResult) : p.complete generation result = (p, false) := by
  rw [complete, Loader.complete, if_neg h]

/-! ### Fenced requests -/

theorem generation_le_run (p : Page) (es : List Event) : p.loader.generation ≤ (p.run es).loader.generation := by
  induction es generalizing p with
  | nil => exact Nat.le_refl _
  | cons e es ih =>
    have hstep := (Loader.moves_step p.loader e).generation_le.1
    rw [← loader_step] at hstep
    exact Nat.le_trans hstep (ih (p.step e))

/-- A request made before the refs were cleared is never awaited again. -/
theorem not_awaits_of_fenced {p : Page} (hc : Coherent p.loader p.requests) (ht : p.loader.target = none)
    {request : Request} (hr : request ∈ p.requests) (es : List Event) :
    ¬ (p.run es).loader.awaits request.generation = true := by
  rw [Loader.awaits_iff]
  rintro ⟨hg, -⟩
  have hlt := hc.fenced ht request hr
  have hle := generation_le_run p es
  omega

/-! ### The main statement -/

/-- **The last request wins.** A report or a message is always that of the first result which came for the last
request after it was made, and that request is for the target of the inputs in the present generation. A
completion counts exactly if its generation is awaited, and every other one leaves the page as it is; this goes
for all requests made before refs were cleared, even if the same target is asked for again. -/
theorem shows_first_result (kind : Kind) (address : AddressBar) (es : List Event) :
    let start := mount kind address
    let p := start.run es
    (∀ report, p.status = .ready report → ∃ request payload more,
      p.requests.getLast? = some request ∧ request.generation = p.loader.generation ∧
      Target.ofParams? kind p.params = some request.target ∧
      start.resultsFor request es = .ok payload :: more ∧ report = Report.ofPayload payload) ∧
    (∀ message, p.status = .failed message → ∃ request failure more,
      p.requests.getLast? = some request ∧ request.generation = p.loader.generation ∧
      Target.ofParams? kind p.params = some request.target ∧
      start.resultsFor request es = .error failure :: more ∧
      message = "Error while retrieving data from the API.") ∧
    (∀ generation result, start.Awaits es generation →
      p.complete generation result = ({ p with loader := { p.loader with status := statusOf result } }, true)) ∧
    (∀ generation result, ¬ start.Awaits es generation → p.complete generation result = (p, false)) ∧
    (∀ before after, es = before ++ after → Target.ofParams? kind (start.run before).params = none →
      ∀ request ∈ (start.run before).requests, ∀ result, p.complete request.generation result = (p, false)) := by
  intro start p
  have hf : start.Fresh := fresh_mount kind address
  have hkind : start.kind = kind := kind_mount kind address
  clear_value start
  subst hkind
  refine ⟨?_, ?_, ?_, ?_, ?_⟩
  · intro report (hreport : (start.run es).status = .ready report)
    obtain ⟨request, result, more, hlast, hg, ht, hr, hs⟩ :=
      hf.exists_result es (by simp [hreport]) (by simp [hreport])
    cases result with
    | ok payload => exact ⟨request, payload, more, hlast, hg, ht, hr, Status.ready.inj (hreport.symm.trans hs)⟩
    | error failure => cases hreport.symm.trans hs
  · intro message (hmessage : (start.run es).status = .failed message)
    obtain ⟨request, result, more, hlast, hg, ht, hr, hs⟩ :=
      hf.exists_result es (by simp [hmessage]) (by simp [hmessage])
    cases result with
    | ok payload => cases hmessage.symm.trans hs
    | error failure => exact ⟨request, failure, more, hlast, hg, ht, hr, Status.failed.inj (hmessage.symm.trans hs)⟩
  · intro generation result h
    exact complete_of_awaits ((hf.awaits_iff es generation).1 h) result
  · intro generation result h
    exact complete_of_not_awaits (fun ha => h ((hf.awaits_iff es generation).2 ha)) result
  · rintro before after rfl ht request hr result
    have hc := coherent_run hf.coherent before
    have hnone : (start.run before).loader.target = none := by
      rw [hc.target_eq, ← ht, ← kind_run start before]
      rfl
    refine complete_of_not_awaits ?_ result
    have := not_awaits_of_fenced hc hnone hr after
    rwa [← run_append] at this

end BenchCompare.Page
