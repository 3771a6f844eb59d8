import BenchCompare.Proofs.Page.Answers

/-!
# The order of deliveries

Results arrive whenever they like between the actions of the user.

* `Page.actions es`: the events that come from the user, without the results that arrive between them.
* `Page.SameCourse p q`: `p` and `q` differ in what they show at most.
* `sameCourse_run_actions`: results decide only what a page shows.
* `Page.AnsweredBy es answer`: every request has got exactly one result, the one that `answer` gives.

Main statement: `deliveries_decide_only_status`.
-/

namespace BenchCompare

open Loader (Event Moves)

namespace Loader

def Event.isAction : Event → Bool
  | .complete .. => false
  | _ => true

theorem commit_of_status (l : Loader) (s : Status) (p : Params) : ∃ s',
    ({ l with status := s } : Loader).commit p = ({ (l.commit p).1 with status := s' }, (l.commit p).2) := by
  unfold commit
  dsimp only
  split
  · exact ⟨s, rfl⟩
  · split <;> exact ⟨_, rfl⟩

theorem step_of_status (l : Loader) (s : Status) {e : Event} (he : e.isAction = true) : ∃ s',
    ({ l with status := s } : Loader).step e = ({ (l.step e).1 with status := s' }, (l.step e).2) := by
  cases e with
  | change c =>
    simp only [step, change]
    split
    · exact ⟨s, rfl⟩
    · obtain ⟨s', h⟩ := commit_of_status l s (l.params.apply c)
      refine ⟨s', ?_⟩
      rw [publish_eq, publish_eq, h]
  | reload =>
    simp only [step, reload]
    split
    · exact ⟨_, rfl⟩
    · exact ⟨s, rfl⟩
  | complete => cases he

end Loader

namespace Page

/-- The events that come from the user. -/
def actions (es : List Event) : List Event := es.filter Event.isAction

/-- Two pages that differ in what they show at most. -/
structure SameCourse (p q : Page) : Prop where
  kind : p.kind = q.kind
  params : p.params = q.params
  target : p.loader.target = q.loader.target
  generation : p.loader.generation = q.loader.generation
  requests : p.requests = q.requests
  address : p.address = q.address

namespace SameCourse

variable {p q r : Page}

theorem refl (p : Page) : SameCourse p p := ⟨rfl, rfl, rfl, rfl, rfl, rfl⟩

theorem symm (h : SameCourse p q) : SameCourse q p :=
  ⟨h.kind.symm, h.params.symm, h.target.symm, h.generation.symm, h.requests.symm, h.address.symm⟩

theorem trans (h : SameCourse p q) (h' : SameCourse q r) : SameCourse p r :=
  ⟨h.kind.trans h'.kind, h.params.trans h'.params, h.target.trans h'.target, h.generation.trans h'.generation,
    h.requests.trans h'.requests, h.address.trans h'.address⟩

theorem of_status {s : Status} (hl : q.loader = { p.loader with status := s }) (hr : p.requests = q.requests)
    (ha : p.address = q.address) : SameCourse p q := by
  refine ⟨?_, ?_, ?_, ?_, hr, ha⟩
  · rw [Page.kind, Page.kind, hl]
  · rw [Page.params, Page.params, hl]
  · rw [hl]
  · rw [hl]

theorem loader_eq (h : SameCourse p q) : q.loader = { p.loader with status := q.loader.status } := by
  obtain ⟨hkind, hparams, htarget, hgeneration, -, -⟩ := h
  simp only [Page.kind, Page.params] at hkind hparams
  dsimp only
  rw [hkind, hparams, htarget, hgeneration]

theorem action (h : SameCourse p q) {e : Event} (he : e.isAction = true) : SameCourse (p.step e) (q.step e) := by
  obtain ⟨s, hs⟩ := Loader.step_of_status p.loader q.loader.status he
  rw [← h.loader_eq] at hs
  have hl : (q.step e).loader = { (p.step e).loader with status := s } := by
    rw [loader_step, loader_step, hs]
  refine of_status hl ?_ ?_
  · rw [requests_step, requests_step, hs, h.requests]
  · rw [address_step, address_step, hs, h.kind, h.address]

/-- A result changes nothing but what the page shows. -/
theorem completion (p : Page) (generation : Nat) (result : FetchResult) :
    SameCourse p (p.step (.complete generation result)) := by
  rw [Page.step]
  by_cases h : p.loader.awaits generation = true
  · rw [complete_of_awaits h]
    exact of_status rfl rfl rfl
  · rw [complete_of_not_awaits h]
    exact refl p

theorem step (h : SameCourse p q) (e : Event) : SameCourse (p.step e) (q.step e) := by
  cases e with
  | complete generation result =>
    exact (completion p generation result).symm.trans (h.trans (completion q generation result))
  | change | reload => exact h.action rfl

theorem run (h : SameCourse p q) (es : List Event) : SameCourse (p.run es) (q.run es) := by
  induction es generalizing p q with
  | nil => exact h
  | cons e es ih => exact ih (h.step e)

end SameCourse

/-- **Results decide only what a page shows**: without them it takes the same course. -/
theorem sameCourse_run_actions (p : Page) (es : List Event) : SameCourse (p.run es) (p.run (actions es)) := by
  induction es generalizing p with
  | nil => exact .refl p
  | cons e es ih =>
    cases e with
    | complete generation result => exact ((SameCourse.completion p generation result).symm.run es).trans (ih p)
    | change c => exact ih (p.step (.change c))
    | reload => exact ih (p.step .reload)

theorem sameCourse_run (p : Page) {es es' : List Event} (h : actions es = actions es') :
    SameCourse (p.run es) (p.run es') :=
  (sameCourse_run_actions p es).trans (h ▸ (sameCourse_run_actions p es').symm)

/-- Starts of two interleavings of the same actions hold the same actions once they hold equally many. -/
theorem actions_eq_of_isPrefix {es es' before before' : List Event} (h : actions es = actions es')
    (hb : before <+: es) (hb' : before' <+: es') (hlen : (actions before).length = (actions before').length) :
    actions before = actions before' := by
  have hp : actions before <+: actions es := hb.filter _
  have hp' : actions before' <+: actions es := h ▸ hb'.filter _
  exact (List.prefix_of_prefix_length_le hp hp' (Nat.le_of_eq hlen)).eq_of_length hlen

/-- After the events every request has got exactly one result since it was made, the one that `answer` gives. -/
def AnsweredBy (p : Page) (es : List Event) (answer : Request → FetchResult) : Prop :=
  ∀ request ∈ (p.run es).requests, p.resultsFor request es = [answer request]

/-- A page whose requests are all answered shows the answer to the last one. -/
theorem Fresh.status_of_answeredBy {p : Page} (h : p.Fresh) {es : List Event} {answer : Request → FetchResult}
    (ha : p.AnsweredBy es answer) : (p.run es).status =
      match (p.run es).loader.target with
      | none => .notReady
      | some t => Loader.statusOf (answer ⟨(p.run es).loader.generation, t⟩) := by
  have hc := coherent_run h.coherent es
  cases ht : (p.run es).loader.target with
  | none => exact hc.notReady_iff.2 ht
  | some t =>
    rw [h.status_run es t ht, ha _ (mem_of_target hc ht)]
    rfl

/-- **The order of deliveries does not matter.** Let results arrive between the same actions of the user in two
ways. After as many actions the two pages have the same inputs, target, generation, requests and address bar. If
every request gets exactly one result after it was made, and the same one both times, then both pages end by
showing the same. -/
theorem deliveries_decide_only_status (kind : Kind) (address : AddressBar) (es es' : List Event)
    (h : actions es = actions es') :
    let start := mount kind address
    (∀ before before', before <+: es → before' <+: es' → (actions before).length = (actions before').length →
      SameCourse (start.run before) (start.run before')) ∧
    (∀ answer, start.AnsweredBy es answer → start.AnsweredBy es' answer →
      (start.run es).status = (start.run es').status) := by
  intro start
  refine ⟨?_, ?_⟩
  · intro before before' hb hb' hlen
    exact sameCourse_run start (actions_eq_of_isPrefix h hb hb' hlen)
  · intro answer ha ha'
    have hf : start.Fresh := fresh_mount kind address
    have hsame := sameCourse_run start h
    rw [hf.status_of_answeredBy ha, hf.status_of_answeredBy ha', hsame.target, hsame.generation]

/-! ### Two answers that cross

The user asks for two targets. The first answer is a failure and the second one a success. -/

def inOrder : List Event :=
  [.change (.oldRef "a"), .complete 1 (.error (.transport "")),
    .change (.oldRef "b"), .complete 2 (.ok ⟨"", "", .empty⟩)]

/-- The first answer comes last. -/
def crossed : List Event :=
  [.change (.oldRef "a"), .change (.oldRef "b"),
    .complete 2 (.ok ⟨"", "", .empty⟩), .complete 1 (.error (.transport ""))]

def secondSucceeds (request : Request) : FetchResult :=
  if request.generation = 2 then .ok ⟨"", "", .empty⟩ else .error (.transport "")

def blank : Page := mount .foreignKeys { page := "", query := "" }

theorem requests_run_inOrder : (blank.run inOrder).requests =
    [⟨1, .foreignKeys "a" "" ""⟩, ⟨2, .foreignKeys "b" "" ""⟩] := by
  decide +kernel

theorem requests_run_crossed : (blank.run crossed).requests =
    [⟨1, .foreignKeys "a" "" ""⟩, ⟨2, .foreignKeys "b" "" ""⟩] := by
  decide +kernel

theorem answeredBy_inOrder : blank.AnsweredBy inOrder secondSucceeds := by
  intro request hr
  rw [requests_run_inOrder] at hr
  simp only [List.mem_cons, List.not_mem_nil, or_false] at hr
  simp only [inOrder, resultsFor, arrival]
  rcases hr with rfl | rfl
  · rw [if_pos ⟨rfl, by decide +kernel⟩, if_neg (by simp)]
    rfl
  · rw [if_neg (by simp), if_pos ⟨rfl, by decide +kernel⟩]
    rfl

theorem answeredBy_crossed : blank.AnsweredBy crossed secondSucceeds := by
  intro request hr
  rw [requests_run_crossed] at hr
  simp only [List.mem_cons, List.not_mem_nil, or_false] at hr
  simp only [crossed, resultsFor, arrival]
  rcases hr with rfl | rfl
  · rw [if_neg (by simp), if_pos ⟨rfl, by decide +kernel⟩]
    rfl
  · rw [if_pos ⟨rfl, by decide +kernel⟩, if_neg (by simp)]
    rfl

theorem status_run_inOrder_eq_crossed :
    actions inOrder = actions crossed ∧ blank.AnsweredBy inOrder secondSucceeds ∧
    blank.AnsweredBy crossed secondSucceeds ∧ (blank.run inOrder).status = (blank.run crossed).status := by
  refine ⟨rfl, answeredBy_inOrder, answeredBy_crossed, ?_⟩
  exact (deliveries_decide_only_status .foreignKeys { page := "", query := "" } inOrder crossed rfl).2
    secondSucceeds answeredBy_inOrder answeredBy_crossed

end Page

end BenchCompare
