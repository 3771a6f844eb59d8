import BenchCompare.Proofs.App.Selection
import Mathlib.Data.List.Nodup

/-!
# The order of outcomes

Outcomes of fetches wait until they are delivered, and nothing says in which order.

* `Outcome.ticket`: the fetch that an outcome answers, by its kind and its generation.
* `not_counts_receive`: no outcome makes another one count. `receive_comm`: so outcomes of two fetches can be delivered
  either way round.
* `App.SameButTime a b`: the dashboards are the same, but for the time of the last result. `SameButTime.receive`: they
  stay so, whenever they take in the same outcome.

Main statement: `run_deliveries_perm`.
-/

namespace BenchCompare

/-- The fetch that an outcome answers: a generation of the catalog or one of the comparison. -/
def Outcome.ticket : Outcome → Nat ⊕ Nat
  | .catalog generation _ => .inl generation
  | .comparison generation _ => .inr generation

namespace App

/-! ### Two outcomes -/

section Two

variable {a : App} {o o' : Outcome}

/-- No outcome makes another one count. -/
theorem not_counts_receive (h : ¬ a.Counts o') (now : String) (o : Outcome) :
    ¬ (a.receive now o).1.Counts o' := by
  by_cases ho : a.Counts o
  · rw [receive_of_counts ho]
    cases o with
    | catalog generation result => cases o' <;> exact h
    | comparison generation result =>
      cases o' with
      | catalog generation' result' => exact h
      | comparison generation' result' =>
        -- a result has been shown, so the page waits for none
        intro hawaits
        exact Page.statusOf_ne_loading result ((Loader.awaits_iff _ generation').1 hawaits).2
  · rw [receive_of_not_counts ho]
    exact h

/-- A load of the catalog and a result of the comparison do not meet. -/
theorem receive_load_result {generation generation' : Nat} {loaded : Except Failure Catalog} {result : FetchResult}
    (h : a.Counts (.catalog generation loaded)) (h' : a.Counts (.comparison generation' result)) (now now' : String) :
    ((a.receive now (.catalog generation loaded)).1.receive now' (.comparison generation' result)).1 =
      ((a.receive now' (.comparison generation' result)).1.receive now (.catalog generation loaded)).1 := by
  have hafter : (a.accept now (.catalog generation loaded)).Counts (.comparison generation' result) := h'
  have hafter' : (a.accept now' (.comparison generation' result)).Counts (.catalog generation loaded) := h
  rw [receive_of_counts h, receive_of_counts h', receive_of_counts hafter, receive_of_counts hafter']
  rfl

theorem receive_comm_of_counts (h : a.Counts o) (h' : a.Counts o') (hne : o.ticket ≠ o'.ticket) (now now' : String) :
    ((a.receive now o).1.receive now' o').1 = ((a.receive now' o').1.receive now o).1 := by
  -- two outcomes of one kind that count would answer the same fetch
  cases o with
  | catalog generation loaded =>
    cases o' with
    | catalog generation' loaded' => exact absurd (congrArg Sum.inl (h.trans h'.symm)) hne
    | comparison generation' result' => exact receive_load_result h h' now now'
  | comparison generation result =>
    cases o' with
    | catalog generation' loaded' => exact (receive_load_result h' h now' now).symm
    | comparison generation' result' =>
      have hg : generation = a.page.loader.generation := ((Loader.awaits_iff _ _).1 h).1
      have hg' : generation' = a.page.loader.generation := ((Loader.awaits_iff _ _).1 h').1
      exact absurd (congrArg Sum.inr (hg.trans hg'.symm)) hne

/-- **Outcomes of two fetches can be delivered either way round.** -/
theorem receive_comm (hne : o.ticket ≠ o'.ticket) (now now' : String) :
    ((a.receive now o).1.receive now' o').1 = ((a.receive now' o').1.receive now o).1 := by
  by_cases h : a.Counts o
  · by_cases h' : a.Counts o'
    · exact receive_comm_of_counts h h' hne now now'
    · rw [receive_of_not_counts (not_counts_receive h' now o), receive_of_not_counts h']
  · rw [receive_of_not_counts h, receive_of_not_counts (not_counts_receive h now' o')]

end Two

/-! ### The time of the last result -/

/-- The same dashboards, but for the time of the last result. Either both have shown a result or none has. -/
structure SameButTime (a b : App) : Prop where
  rest : ({ a with updatedAt := none } : App) = { b with updatedAt := none }
  updated : a.updatedAt.isSome = b.updatedAt.isSome

namespace SameButTime

variable {a b c : App}

theorem refl (a : App) : SameButTime a a := ⟨rfl, rfl⟩

theorem symm (h : SameButTime a b) : SameButTime b a := ⟨h.rest.symm, h.updated.symm⟩

theorem trans (h : SameButTime a b) (h' : SameButTime b c) : SameButTime a c :=
  ⟨h.rest.trans h'.rest, h.updated.trans h'.updated⟩

theorem eq_of_time (h : SameButTime a b) : b = { a with updatedAt := b.updatedAt } := by
  have hrest := congrArg (fun d : App => ({ d with updatedAt := b.updatedAt } : App)) h.rest
  exact hrest.symm

/-- Neither the time of the last result nor the present time decides what an outcome does. -/
theorem receive (h : SameButTime a b) (now now' : String) (o : Outcome) :
    SameButTime (a.receive now o).1 (b.receive now' o).1 := by
  have hb := h.eq_of_time
  have hcounts : b.Counts o ↔ a.Counts o := by
    rw [hb]
    cases o <;> exact Iff.rfl
  by_cases ho : a.Counts o
  · rw [receive_of_counts ho, receive_of_counts (hcounts.2 ho)]
    cases o with
    | catalog generation result =>
      refine ⟨?_, h.updated⟩
      rw [hb]
      rfl
    | comparison generation result =>
      refine ⟨?_, rfl⟩
      rw [hb]
      rfl
  · rw [receive_of_not_counts ho, receive_of_not_counts fun hc => ho (hcounts.1 hc)]
    exact h

end SameButTime

/-! ### All outcomes that wait -/

def deliveries (os : List (String × Outcome)) : List Event := os.map fun o => .outcome o.1 o.2

/-- The dashboard after it has taken in outcomes, all at the same time. -/
def receiveAll (a : App) (now : String) (os : List Outcome) : App := os.foldl (fun a o => (a.receive now o).1) a

theorem SameButTime.run_deliveries {a b : App} (h : SameButTime a b) (now : String) (os : List (String × Outcome)) :
    SameButTime (a.run (deliveries os)) (b.receiveAll now (os.map (·.2))) := by
  induction os generalizing a b with
  | nil => exact h
  | cons o os ih => exact ih (h.receive o.1 now o.2)

theorem receiveAll_perm (a : App) (now : String) {os os' : List Outcome} (h : os.Perm os')
    (honce : (os.map Outcome.ticket).Nodup) : a.receiveAll now os = a.receiveAll now os' := by
  refine h.foldl_eq' ?_ a
  intro o ho o' ho' a'
  by_cases hne : o.ticket = o'.ticket
  · rw [List.inj_on_of_nodup_map honce ho ho' hne]
  · exact receive_comm hne now now

/-- **The order of deliveries does not matter.** Whatever a dashboard has been through, let outcomes wait for it, one for
each fetch at most. Delivered in any two orders and at any times, they leave the same dashboard, but for the time of the
last result; and there is such a time either way or not at all. -/
theorem run_deliveries_perm (a : App) {os os' : List (String × Outcome)}
    (h : (os.map (·.2)).Perm (os'.map (·.2))) (honce : (os.map (·.2.ticket)).Nodup) :
    SameButTime (a.run (deliveries os)) (a.run (deliveries os')) := by
  have htickets : ((os.map (·.2)).map Outcome.ticket).Nodup := by rwa [List.map_map]
  have hperm := receiveAll_perm a "" h htickets
  have hfirst := (SameButTime.refl a).run_deliveries "" os
  have hsecond := (SameButTime.refl a).run_deliveries "" os'
  rw [← hperm] at hsecond
  exact hfirst.trans hsecond.symm

/-- The answers to two comparisons and to a load of the catalog, in the order in which they were asked for. -/
def answersInOrder : List (String × Outcome) :=
  [("10:00", .catalog 1 (.ok { branches := [⟨"main", "deadbeef"⟩] })), ("10:01", .comparison 1 (.error (.transport ""))),
    ("10:02", .comparison 2 (.ok ⟨"", "", .empty⟩))]

def answersReversed : List (String × Outcome) :=
  [("10:00", .comparison 2 (.ok ⟨"", "", .empty⟩)), ("10:01", .comparison 1 (.error (.transport ""))),
    ("10:02", .catalog 1 (.ok { branches := [⟨"main", "deadbeef"⟩] }))]

theorem run_deliveries_reversed :
    let a := blank.run [.change (.oldRef "abc"), .change (.oldRef "def")]
    (answersInOrder.map (·.2)).Perm (answersReversed.map (·.2)) ∧ (answersInOrder.map (·.2.ticket)).Nodup ∧
      SameButTime (a.run (deliveries answersInOrder)) (a.run (deliveries answersReversed)) ∧
      (a.run (deliveries answersInOrder)).updatedAt = some "10:02" ∧
      (a.run (deliveries answersReversed)).updatedAt = some "10:00" := by
  intro a
  have hperm : (answersInOrder.map (·.2)).Perm (answersReversed.map (·.2)) := (List.reverse_perm _).symm
  have honce : (answersInOrder.map (·.2.ticket)).Nodup := by decide
  exact ⟨hperm, honce, run_deliveries_perm a hperm honce, by decide +kernel, by decide +kernel⟩

end App

end BenchCompare
