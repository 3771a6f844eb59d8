import BenchCompare.Report.Basic
import Mathlib.Data.List.Perm.Basic

/-!
# Canonical reports

* `perm_flatMap_filter`: a list is made up of its parts under the values of a function.
* `Row.entry`: the metric of a row with its sample.
* `Section.perm_rows`, `Section.increasing_rows`, `Section.ofEntries_congr`: the section of a category holds the
  metrics of the category, in the order of their names, whatever the order in which they come.
* `Report.Canonical r`: sections in the order of their categories, none of them empty, and rows in the order of
  their names, each under its own category. `canonical_ofPayload` says that the reports of payloads are canonical.
* `perm_rows_ofPayload`: the rows of a report are those of the metrics of the payload.

Main statement: `ofPayload_canonical_lossless`.
-/

namespace BenchCompare

/-! ### Lists in parts -/

/-- **The parts of a list under the values of a function make up the list.** -/
theorem perm_flatMap_filter {α β : Type} [DecidableEq β] (f : α → β) {values : List β} (hnd : values.Nodup)
    {l : List α} (h : ∀ a ∈ l, f a ∈ values) : (values.flatMap fun b => l.filter fun a => f a = b).Perm l := by
  -- the part of the first value is split off, and the rest of the list has the other values
  induction values generalizing l with
  | nil =>
    obtain rfl : l = [] := List.eq_nil_iff_forall_not_mem.2 fun a ha => by simpa using h a ha
    exact .nil
  | cons b values ih =>
    obtain ⟨hb, hnd⟩ := List.nodup_cons.1 hnd
    have hrest : ∀ a ∈ l.filter (fun a => !decide (f a = b)), f a ∈ values := by
      intro a ha
      obtain ⟨hal, hne⟩ := List.mem_filter.1 ha
      rcases List.mem_cons.1 (h a hal) with hab | hab
      · simp [hab] at hne
      · exact hab
    have hpart : ∀ c ∈ values, (l.filter fun a => f a = c) =
        (l.filter fun a => !decide (f a = b)).filter fun a => f a = c := by
      intro c hc
      have hcb : c ≠ b := ne_of_mem_of_not_mem hc hb
      rw [List.filter_filter]
      refine List.filter_congr fun a _ => ?_
      by_cases hac : f a = c
      · simp [hac, hcb]
      · simp [hac]
    rw [List.flatMap_cons, List.flatMap_congr hpart]
    exact ((ih hnd hrest).append_left _).trans (List.filter_append_perm _ l)

/-! ### Categories -/

theorem Category.mem_all (c : Category) : c ∈ all := by
  cases c <;> decide

theorem Category.increasing_all : all.Pairwise (·.rank < ·.rank) := by decide

theorem Category.nodup_all : all.Nodup := by decide

theorem Category.rank_le_other (c : Category) : c.rank ≤ other.rank := by
  cases c <;> decide

/-! ### Rows -/

def Row.entry (r : Row) : String × Sample := (r.metric, ⟨r.old, r.new⟩)

theorem Row.map_entry_ofEntry (entries : List (String × Sample)) : (entries.map ofEntry).map entry = entries := by
  rw [List.map_map]
  exact List.map_id entries

theorem Row.map_metric_ofEntry (entries : List (String × Sample)) :
    (entries.map ofEntry).map (·.metric) = entries.map (·.1) := by
  rw [List.map_map]
  rfl

/-! ### The section of a category -/

namespace Section

variable {entries entries' : List (String × Sample)} (category : Category)

theorem perm_rows (entries : List (String × Sample)) : (ofEntries category entries).rows.Perm
    ((entries.filter fun e => Metric.category e.1 = category).map Row.ofEntry) :=
  List.mergeSort_perm _ _

theorem category_of_mem_rows {r : Row} (h : r ∈ (ofEntries category entries).rows) :
    Metric.category r.metric = category := by
  obtain ⟨e, he, rfl⟩ := List.mem_map.1 ((perm_rows category entries).mem_iff.1 h)
  exact of_decide_eq_true (List.mem_filter.1 he).2

theorem nodup_metric_rows (hnd : (entries.map (·.1)).Nodup) :
    ((ofEntries category entries).rows.map (·.metric)).Nodup := by
  have hperm := (perm_rows category entries).map (·.metric)
  rw [Row.map_metric_ofEntry] at hperm
  exact hperm.nodup_iff.2 ((List.filter_sublist.map _).nodup hnd)

theorem increasing_rows (hnd : (entries.map (·.1)).Nodup) :
    (ofEntries category entries).rows.Pairwise (·.metric < ·.metric) := by
  have htrans : ∀ a b c : Row, decide (a.metric ≤ b.metric) = true → decide (b.metric ≤ c.metric) = true →
      decide (a.metric ≤ c.metric) = true := by
    intro a b c hab hbc
    rw [decide_eq_true_eq] at hab hbc ⊢
    exact String.le_trans hab hbc
  have htotal : ∀ a b : Row, (decide (a.metric ≤ b.metric) || decide (b.metric ≤ a.metric)) = true := by
    intro a b
    rw [Bool.or_eq_true, decide_eq_true_eq, decide_eq_true_eq]
    exact String.le_total a.metric b.metric
  have hle := List.pairwise_mergeSort htrans htotal
    ((entries.filter fun e => Metric.category e.1 = category).map Row.ofEntry)
  have hne : (ofEntries category entries).rows.Pairwise (·.metric ≠ ·.metric) :=
    List.pairwise_map.1 (nodup_metric_rows category hnd)
  refine (hle.and hne).imp ?_
  rintro a b ⟨hab, hne⟩
  by_cases hlt : a.metric < b.metric
  · exact hlt
  · exact absurd (String.le_antisymm (of_decide_eq_true hab) hlt) hne

theorem ofEntries_congr (hnd : (entries.map (·.1)).Nodup) (h : entries'.Perm entries) :
    ofEntries category entries' = ofEntries category entries := by
  have hnd' : (entries'.map (·.1)).Nodup := (h.map _).nodup_iff.2 hnd
  have hperm : (ofEntries category entries').rows.Perm (ofEntries category entries).rows :=
    ((perm_rows category entries').trans ((h.filter _).map _)).trans (perm_rows category entries).symm
  -- increasing lists of the same rows are equal
  have hrows : (ofEntries category entries').rows = (ofEntries category entries).rows :=
    hperm.eq_of_pairwise (fun a b _ _ hab hba => absurd (String.lt_trans hab hba) (String.lt_irrefl _))
      (increasing_rows category hnd') (increasing_rows category hnd)
  exact congrArg (fun rows => { category, rows : Section }) hrows

end Section

/-! ### Reports -/

namespace Report

/-- Sections in the order of their categories, none of them empty, and rows in the order of their names, each under
its own category. -/
structure Canonical (r : Report) : Prop where
  increasing : r.sections.Pairwise (·.category.rank < ·.category.rank)
  nonempty : ∀ s ∈ r.sections, s.rows ≠ []
  increasing_rows : ∀ s ∈ r.sections, s.rows.Pairwise (·.metric < ·.metric)
  category_eq : ∀ s ∈ r.sections, ∀ row ∈ s.rows, Metric.category row.metric = s.category

/-- No section comes after the one of the other metrics. -/
theorem Canonical.getLast?_of_other {r : Report} (h : r.Canonical) {s : Section} (hs : s ∈ r.sections)
    (ho : s.category = .other) : r.sections.getLast? = some s := by
  obtain ⟨front, back, hsplit⟩ := List.append_of_mem hs
  have hback : back = [] := by
    refine List.eq_nil_iff_forall_not_mem.2 fun t ht => ?_
    have hp := (List.pairwise_append.1 (hsplit ▸ h.increasing)).2.1
    have hlt := List.rel_of_pairwise_cons hp ht
    rw [ho] at hlt
    exact absurd t.category.rank_le_other (Nat.not_le_of_lt hlt)
  rw [hsplit, hback, List.getLast?_concat]

section OfPayload

variable (p : Payload)

theorem rows_ofPayload :
    (ofPayload p).rows = Category.all.flatMap fun c => (Section.ofEntries c p.metrics.entries).rows := by
  have hdrop : ∀ sections : List Section,
      (sections.filter (!·.rows.isEmpty)).flatMap (·.rows) = sections.flatMap (·.rows) := by
    intro sections
    induction sections with
    | nil => rfl
    | cons s sections ih =>
      by_cases hs : s.rows = []
      · simp [hs, ih]
      · simp [hs, ih]
  rw [rows, ofPayload, hdrop, List.flatMap_map]

theorem perm_rows_ofPayload : (ofPayload p).rows.Perm (p.metrics.entries.map Row.ofEntry) := by
  have hsections : (ofPayload p).rows.Perm (Category.all.flatMap fun c =>
      (p.metrics.entries.filter fun e => Metric.category e.1 = c).map Row.ofEntry) := by
    rw [rows_ofPayload]
    exact List.Perm.flatMap_left _ fun c _ => Section.perm_rows c _
  rw [← List.map_flatMap] at hsections
  exact hsections.trans ((perm_flatMap_filter _ Category.nodup_all fun e _ => Category.mem_all _).map _)

theorem exists_of_mem_sections {s : Section} (h : s ∈ (ofPayload p).sections) :
    s.rows ≠ [] ∧ ∃ c, s = Section.ofEntries c p.metrics.entries := by
  obtain ⟨hs, hne⟩ := List.mem_filter.1 h
  obtain ⟨c, -, rfl⟩ := List.mem_map.1 hs
  exact ⟨by simpa using hne, c, rfl⟩

theorem canonical_ofPayload : (ofPayload p).Canonical where
  increasing := by
    have hall : (Category.all.map fun c => Section.ofEntries c p.metrics.entries).Pairwise
        (·.category.rank < ·.category.rank) := List.pairwise_map.2 Category.increasing_all
    exact hall.sublist List.filter_sublist
  nonempty s hs := (exists_of_mem_sections p hs).1
  increasing_rows s hs := by
    obtain ⟨-, c, rfl⟩ := exists_of_mem_sections p hs
    exact Section.increasing_rows c p.metrics.nodup
  category_eq s hs row hrow := by
    obtain ⟨-, c, rfl⟩ := exists_of_mem_sections p hs
    exact Section.category_of_mem_rows c hrow

variable {p}

theorem ofPayload_congr {metrics : Metrics} (h : metrics.entries.Perm p.metrics.entries) :
    ofPayload { p with metrics } = ofPayload p := by
  have hsections : ∀ c, Section.ofEntries c metrics.entries = Section.ofEntries c p.metrics.entries :=
    fun c => Section.ofEntries_congr c p.metrics.nodup h
  simp only [ofPayload, hsections]

end OfPayload

/-- **The report of a payload is canonical and loses nothing.** Its sections stand in the order of their categories,
the other metrics last, none is empty, and the rows of a section belong to its category and stand in the order of
their names. The rows hold every metric of the payload once, with its own sample, and nothing else. In which order
the metrics come does not matter. -/
theorem ofPayload_canonical_lossless (p : Payload) :
    let r := ofPayload p
    r.Canonical ∧
    (∀ s ∈ r.sections, s.category = .other → r.sections.getLast? = some s) ∧
    (r.rows.map Row.entry).Perm p.metrics.entries ∧
    (r.rows.map (·.metric)).Nodup ∧
    r.rowCount = p.metrics.entries.length ∧
    ∀ metrics : Metrics, metrics.entries.Perm p.metrics.entries → ofPayload { p with metrics } = r := by
  intro r
  have hcanonical : r.Canonical := canonical_ofPayload p
  have hrows : r.rows.Perm (p.metrics.entries.map Row.ofEntry) := perm_rows_ofPayload p
  have hentries : (r.rows.map Row.entry).Perm p.metrics.entries := by
    have hmap := hrows.map Row.entry
    rwa [Row.map_entry_ofEntry] at hmap
  have hmetrics : (r.rows.map (·.metric)).Perm (p.metrics.entries.map (·.1)) :=
    Row.map_metric_ofEntry _ ▸ hrows.map (·.metric)
  refine ⟨hcanonical, fun s hs ho => hcanonical.getLast?_of_other hs ho, hentries, ?_, ?_, ?_⟩
  · exact hmetrics.nodup_iff.2 p.metrics.nodup
  · rw [rowCount, hrows.length_eq, List.length_map]
  · exact fun metrics h => ofPayload_congr h

theorem ofPayload_swapped :
    let forward : Metrics := ⟨[("tps", ⟨1, 2⟩), ("errors.vtgate", ⟨3, 4⟩)], by decide⟩
    let backward : Metrics := ⟨[("errors.vtgate", ⟨3, 4⟩), ("tps", ⟨1, 2⟩)], by decide⟩
    backward.entries.Perm forward.entries ∧
    ofPayload ⟨"TPCC", "TPCC", backward⟩ = ofPayload ⟨"TPCC", "TPCC", forward⟩ := by
  intro forward backward
  have hperm : backward.entries.Perm forward.entries := .swap ..
  exact ⟨hperm, (ofPayload_canonical_lossless ⟨"TPCC", "TPCC", forward⟩).2.2.2.2.2 backward hperm⟩

end Report

end BenchCompare
