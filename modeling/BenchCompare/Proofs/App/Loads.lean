import BenchCompare.Proofs.App.Selection

/-!
# Loads of the catalog

The catalog can be asked for again while earlier loads are under way, and they come back whenever they like.

* `App.Numbered a`: the loads that the dashboard has asked for are counted from one, and it holds the generation of the
  last one. `Numbered.moves` is the step, `numbered_start` the start and `numbered_run` the whole run.
* `Event.load?`, `App.counted a es`: the load that an event brings back, and the loads that have counted in a run.
* `App.Shows a counted`: the catalog and its note are those of the last load that has counted. `Shows.step` is the step,
  `shows_start` the start and `shows_run` the whole run.

Main statement: `catalog_run_start`.
-/

namespace BenchCompare

/-- A load of the catalog that has come back. -/
structure Load where
  generation : Nat
  result : Except Failure Catalog

namespace App

/-! ### Loads that are asked for -/

/-- The loads have the generations from one on, and the dashboard holds that of the last one. -/
structure Numbered (a : App) : Prop where
  loads_eq : a.catalogLoads = List.range' 1 a.catalogGeneration
  pos : 0 < a.catalogGeneration

section Numbered

variable {a a' : App}

theorem Numbered.getLast?_loads (h : Numbered a) : a.catalogLoads.getLast? = some a.catalogGeneration := by
  have hne : a.catalogGeneration ≠ 0 := Nat.ne_of_gt h.pos
  rw [h.loads_eq, List.getLast?_range', if_neg hne, Nat.add_sub_cancel_left]

theorem Numbered.length_loads (h : Numbered a) : a.catalogLoads.length = a.catalogGeneration := by
  rw [h.loads_eq, List.length_range']

theorem Numbered.of_eq (h : Numbered a) (hloads : a'.catalogLoads = a.catalogLoads)
    (hg : a'.catalogGeneration = a.catalogGeneration) : Numbered a' := by
  refine ⟨?_, by rw [hg]; exact h.pos⟩
  rw [hloads, hg]
  exact h.loads_eq

theorem Numbered.reloadCatalog (h : Numbered a) : Numbered a.reloadCatalog := by
  have hloads : a.reloadCatalog.catalogLoads = a.catalogLoads ++ [1 + a.catalogGeneration] := by
    rw [Nat.add_comm]
    rfl
  refine ⟨?_, Nat.succ_pos _⟩
  rw [hloads, h.loads_eq, ← List.range'_1_concat]
  rfl

/-- To ask again is to ask for one load, under the next generation. -/
theorem fetchesSince_reloadCatalog (a : App) :
    a.reloadCatalog.fetchesSince a = [.catalog (a.catalogGeneration + 1)] := by
  have hloads : a.reloadCatalog.catalogLoads = a.catalogLoads ++ [a.catalogGeneration + 1] := rfl
  have hrequests : a.reloadCatalog.page.requests = a.page.requests := rfl
  rw [fetchesSince, fetchesAfter, hloads, hrequests, List.drop_left, List.drop_length]
  rfl

/-- **Every event keeps the loads numbered.** Only asking again adds one. -/
theorem Numbered.moves {e : Event} (h : Numbered a) (hm : Moves a e a') : Numbered a' := by
  cases hm with
  | @edit _ side | @choose _ side | @activate _ side => cases side <;> exact h.of_eq rfl rfl
  | cycle | view | change | reload | unmount => exact h.of_eq rfl rfl
  | reloadCatalog => exact h.reloadCatalog
  | @receive now o =>
    obtain ⟨page, catalog, note, updatedAt, -, hreceive⟩ := exists_receive a now o
    rw [hreceive]
    exact h.of_eq rfl rfl

theorem numbered_run (h : Numbered a) (es : List Event) : Numbered (a.run es) := by
  induction es generalizing a with
  | nil => exact h
  | cons e es ih => exact ih (h.moves (moves_step a e))

end Numbered

theorem numbered_start {config : Config} {kind : Kind} {query : String} {a : App}
    (h : start config kind query = .ok a) : Numbered a := by
  obtain ⟨oldChord, newChord, rfl⟩ := exists_of_start h
  exact ⟨rfl, Nat.one_pos⟩

theorem Moves.catalogGeneration_le {a a' : App} {e : Event} (hm : Moves a e a') :
    a.catalogGeneration ≤ a'.catalogGeneration := by
  cases hm with
  | @edit _ side | @choose _ side | @activate _ side => cases side <;> exact Nat.le_refl _
  | cycle | view | change | reload | unmount => exact Nat.le_refl _
  | reloadCatalog => exact Nat.le_succ _
  | @receive now o =>
    obtain ⟨page, catalog, note, updatedAt, -, hreceive⟩ := exists_receive a now o
    exact Nat.le_of_eq (congrArg catalogGeneration hreceive).symm

/-! ### Loads that count -/

def Event.load? : Event → Option Load
  | .outcome _ (.catalog generation result) => some ⟨generation, result⟩
  | _ => none

/-- The load that an event brings back, if the dashboard says that it counts. -/
def counts? (a : App) : Event → Option Load
  | .outcome now (.catalog generation result) =>
    if (a.receive now (.catalog generation result)).2 then some ⟨generation, result⟩ else none
  | _ => none

/-- The loads that count during the events, oldest first. -/
def counted (a : App) : List Event → List Load
  | [] => []
  | e :: es => (a.counts? e).toList ++ (a.step e).counted es

theorem counted_concat (a : App) (es : List Event) (e : Event) :
    a.counted (es ++ [e]) = a.counted es ++ ((a.run es).counts? e).toList := by
  induction es generalizing a with
  | nil => exact List.append_nil _
  | cons e' es ih =>
    rw [List.cons_append, counted, ih, counted, List.append_assoc]
    rfl

theorem exists_of_load? {e : Event} {load : Load} (h : e.load? = some load) :
    ∃ now, e = .outcome now (.catalog load.generation load.result) := by
  unfold Event.load? at h
  split at h
  · obtain rfl := Option.some.inj h
    exact ⟨_, rfl⟩
  · cases h

theorem counts?_eq_some_iff {a : App} {e : Event} {load : Load} :
    a.counts? e = some load ↔ e.load? = some load ∧ load.generation = a.catalogGeneration := by
  unfold counts? Event.load?
  split
  · next now generation result =>
    rw [Option.ite_none_right_eq_some, receive_counts_iff]
    constructor
    · rintro ⟨hg, hload⟩
      obtain rfl := Option.some.inj hload
      exact ⟨rfl, hg⟩
    · rintro ⟨hload, hg⟩
      obtain rfl := Option.some.inj hload
      exact ⟨hg, rfl⟩
  · simp

/-- A load that counts replaces the catalog and its note, and nothing else. -/
theorem step_of_counts? {a : App} {e : Event} {load : Load} (h : a.counts? e = some load) :
    a.step e = { a with catalog := load.result.toOption, note := noteOf load.result } := by
  obtain ⟨generation, result⟩ := load
  obtain ⟨hload, hg⟩ := counts?_eq_some_iff.1 h
  obtain ⟨now, rfl⟩ := exists_of_load? hload
  exact congrArg Prod.fst (receive_of_counts (o := .catalog generation result) hg now)

/-- A load that has been superseded leaves the dashboard as it is. -/
theorem step_of_counts?_eq_none {a : App} {e : Event} {load : Load} (h : a.counts? e = none)
    (hload : e.load? = some load) : a.step e = a := by
  have hg : ¬ a.Counts (.catalog load.generation load.result) := by
    intro hg
    have hsome := counts?_eq_some_iff.2 ⟨hload, hg⟩
    rw [h] at hsome
    cases hsome
  obtain ⟨now, rfl⟩ := exists_of_load? hload
  exact congrArg Prod.fst (receive_of_not_counts hg now)

theorem counted_sublist (a : App) (es : List Event) : (a.counted es).Sublist (es.filterMap Event.load?) := by
  induction es generalizing a with
  | nil => exact List.Sublist.refl _
  | cons e es ih =>
    have hhead : (a.counts? e).toList.Sublist e.load?.toList := by
      cases hcounts : a.counts? e with
      | none => exact List.nil_sublist _
      | some load =>
        have hload : e.load? = some load := (counts?_eq_some_iff.1 hcounts).1
        exact hload ▸ List.Sublist.refl _
    have htail : (e :: es).filterMap Event.load? = e.load?.toList ++ es.filterMap Event.load? := by
      rw [List.filterMap_cons]
      cases e.load? <;> rfl
    rw [counted, htail]
    exact hhead.append (ih (a.step e))

/-! ### The catalog and its note -/

/-- The catalog and the note after the loads that have counted: those of the last one, neither before the first one. -/
def shownAfter (counted : List Load) : Option Catalog × Option String :=
  match counted.getLast? with
  | none => (none, none)
  | some ⟨_, .ok catalog⟩ => (some catalog, none)
  | some ⟨_, .error _⟩ => (none, some missingCatalogNote)

theorem shownAfter_concat (counted : List Load) (load : Load) :
    shownAfter (counted ++ [load]) = (load.result.toOption, noteOf load.result) := by
  obtain ⟨generation, result⟩ := load
  rw [shownAfter, List.getLast?_concat]
  cases result <;> rfl

theorem shownAfter_note {counted : List Load} (h : (shownAfter counted).1.isSome = true) :
    (shownAfter counted).2 = none := by
  unfold shownAfter at h ⊢
  split at h
  · cases h
  · rfl
  · cases h

/-- Only a load of the catalog touches the catalog and its note. -/
theorem Moves.catalog_eq {a a' : App} {e : Event} (hm : Moves a e a') (he : e.load? = none) :
    a'.catalog = a.catalog ∧ a'.note = a.note := by
  cases hm with
  | @edit _ side | @choose _ side | @activate _ side => cases side <;> exact ⟨rfl, rfl⟩
  | cycle | view | change | reload | reloadCatalog | unmount => exact ⟨rfl, rfl⟩
  | @receive now o =>
    cases o with
    | catalog generation result => cases he
    | comparison generation result => exact ⟨rfl, rfl⟩

/-- The loads that have counted are in the order of their generations, and the last of them is what the dashboard
shows. -/
structure Shows (a : App) (counted : List Load) : Prop where
  shown : (a.catalog, a.note) = shownAfter counted
  le : ∀ load ∈ counted, load.generation ≤ a.catalogGeneration
  sorted : counted.Pairwise (·.generation ≤ ·.generation)

section Shows

variable {a : App} {loads : List Load}

theorem Shows.of_eq (h : Shows a loads) {a' : App} (hc : a'.catalog = a.catalog ∧ a'.note = a.note)
    (hg : a.catalogGeneration ≤ a'.catalogGeneration) : Shows a' loads := by
  refine ⟨?_, fun load hload => Nat.le_trans (h.le load hload) hg, h.sorted⟩
  rw [hc.1, hc.2]
  exact h.shown

theorem Shows.replace (h : Shows a loads) (result : Except Failure Catalog) :
    Shows { a with catalog := result.toOption, note := noteOf result } (loads ++ [⟨a.catalogGeneration, result⟩]) := by
  refine ⟨(shownAfter_concat loads ⟨a.catalogGeneration, result⟩).symm, ?_, ?_⟩
  · intro load hload
    rcases List.mem_append.1 hload with hload | hload
    · exact h.le load hload
    · obtain rfl := List.mem_singleton.1 hload
      exact Nat.le_refl _
  · rw [List.pairwise_append]
    refine ⟨h.sorted, List.pairwise_singleton _ _, ?_⟩
    intro load hload load' hload'
    obtain rfl := List.mem_singleton.1 hload'
    exact h.le load hload

/-- **After every event the last load that has counted is shown.** -/
theorem Shows.step (h : Shows a loads) (e : Event) : Shows (a.step e) (loads ++ (a.counts? e).toList) := by
  cases hcounts : a.counts? e with
  | some load =>
    obtain ⟨generation, result⟩ := load
    obtain rfl : generation = a.catalogGeneration := (counts?_eq_some_iff.1 hcounts).2
    rw [step_of_counts? hcounts]
    exact h.replace result
  | none =>
    rw [Option.toList_none, List.append_nil]
    have hm := moves_step a e
    cases hload : e.load? with
    | none => exact h.of_eq (hm.catalog_eq hload) hm.catalogGeneration_le
    | some load => rwa [step_of_counts?_eq_none hcounts hload]

theorem shows_run (h : Shows a []) (es : List Event) : Shows (a.run es) (a.counted es) := by
  -- the loads that have counted grow at their end, so the induction takes events off the end
  induction es using List.reverseRecOn with
  | nil => exact h
  | append_singleton es e ih =>
    rw [run_concat, counted_concat]
    exact ih.step e

/-- If every load comes back once at most, then the generations of those that count increase. -/
theorem Shows.increasing {es : List Event} (h : Shows (a.run es) (a.counted es))
    (honce : ((es.filterMap Event.load?).map Load.generation).Nodup) :
    (a.counted es).Pairwise (·.generation < ·.generation) := by
  have hsub := (counted_sublist a es).map Load.generation
  have hnodup : (a.counted es).Pairwise fun l l' => l.generation ≠ l'.generation :=
    List.pairwise_map.1 (honce.sublist hsub)
  exact (h.sorted.and hnodup).imp fun hl => Nat.lt_of_le_of_ne hl.1 hl.2

end Shows

section Start

variable {config : Config} {kind : Kind} {query : String} {a : App} (h : start config kind query = .ok a)
include h

theorem shows_start : Shows a [] := by
  obtain ⟨oldChord, newChord, rfl⟩ := exists_of_start h
  exact ⟨rfl, by simp, List.Pairwise.nil⟩

end Start

/-! ### The main statement -/

/-- **The last load of the catalog wins.** A dashboard asks for the catalog under the generations one, two and so on:
each time that it asks again, it asks for the next one alone. Let these loads come back in any order between any other
events. A load counts exactly if it is the last one that has been asked for by then. The catalog and the note beside it
are those of the last load that has counted, a catalog or a note but never both, and neither before the first one. If
every load comes back once at most, then the generations of those that count increase. An outcome that does not count
leaves the whole dashboard as it is. -/
theorem catalog_run_start {config : Config} {kind : Kind} {query : String} {a : App}
    (h : start config kind query = .ok a) (es : List Event) :
    let b := a.run es
    b.catalogLoads = List.range' 1 b.catalogLoads.length ∧
    b.reloadCatalog.fetchesSince b = [.catalog (b.catalogLoads.length + 1)] ∧
    (((es.filterMap Event.load?).map Load.generation).Nodup →
      (a.counted es).Pairwise (·.generation < ·.generation)) ∧
    (∀ now generation result, (b.receive now (.catalog generation result)).2 = true ↔
      b.catalogLoads.getLast? = some generation) ∧
    (b.catalog, b.note) = shownAfter (a.counted es) ∧
    (b.catalog.isSome = true → b.note = none) ∧
    (∀ now o, (b.receive now o).2 = false → (b.receive now o).1 = b) := by
  intro b
  have hnumbered : Numbered b := numbered_run (numbered_start h) es
  have hshows : Shows b (a.counted es) := shows_run (shows_start h) es
  refine ⟨?_, ?_, hshows.increasing, ?_, hshows.shown, ?_, ?_⟩
  · rw [hnumbered.length_loads]
    exact hnumbered.loads_eq
  · rw [fetchesSince_reloadCatalog, hnumbered.length_loads]
  · intro now generation result
    rw [receive_counts_iff, hnumbered.getLast?_loads, Option.some_inj]
    exact eq_comm
  · intro hsome
    obtain ⟨hcatalog, hnote⟩ := Prod.mk.inj hshows.shown
    rw [hcatalog] at hsome
    rw [hnote]
    exact shownAfter_note hsome
  · intro now o hdropped
    have hno : ¬ b.Counts o := by
      rw [← receive_counts_iff b now, hdropped]
      exact Bool.false_ne_true
    rw [receive_of_not_counts hno]

/-- The catalog is asked for twice more, and the last load comes back before the other two, which fail. -/
def crossedLoads : List Event :=
  [.key (.plain 'R'), .reloadCatalog, .outcome "" (.catalog 3 (.ok { branches := [⟨"main", "deadbeef"⟩] })),
    .outcome "" (.catalog 2 (.error (.transport ""))), .outcome "" (.catalog 1 (.error (.transport "")))]

theorem catalog_run_crossedLoads :
    start {} .foreignKeys "" = .ok blank ∧ ((crossedLoads.filterMap Event.load?).map Load.generation).Nodup ∧
      (blank.run crossedLoads).catalogLoads = [1, 2, 3] ∧
      (∀ generation, ((blank.run crossedLoads).receive "" (.catalog generation (.ok {}))).2 = true ↔ generation = 3) ∧
      (blank.counted crossedLoads).Pairwise (·.generation < ·.generation) ∧
      (blank.run crossedLoads).catalog = some { branches := [⟨"main", "deadbeef"⟩] } ∧
      (blank.run crossedLoads).note = none := by
  have hstart : start {} .foreignKeys "" = .ok blank := rfl
  have honce : ((crossedLoads.filterMap Event.load?).map Load.generation).Nodup := by decide
  have hcounted : blank.counted crossedLoads = [⟨3, .ok { branches := [⟨"main", "deadbeef"⟩] }⟩] := rfl
  obtain ⟨-, -, hincreasing, hcounts, hshown, hnote, -⟩ := catalog_run_start hstart crossedLoads
  rw [hcounted] at hshown
  have hcatalog := congrArg Prod.fst hshown
  have hloads : (blank.run crossedLoads).catalogLoads = [1, 2, 3] := rfl
  have hlast : ∀ generation, ((blank.run crossedLoads).receive "" (.catalog generation (.ok {}))).2 = true ↔
      generation = 3 := by
    intro generation
    rw [hcounts, hloads]
    simp [eq_comm]
  exact ⟨hstart, honce, hloads, hlast, hincreasing honce, hcatalog, hnote (congrArg Option.isSome hcatalog)⟩

end App

end BenchCompare
