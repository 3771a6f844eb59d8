import BenchCompare.Json.Value
import BenchCompare.Metric
import BenchCompare.Payload

/-!
# Comparison reports

`Report.ofPayload` groups the metrics of a payload by category. Sections stand in the order of the categories and
none is empty, and the rows of a section stand in the order of their names.
-/

namespace BenchCompare

/-- One metric of a report. -/
structure Row where
  metric : String
  label : String
  old : Float
  new : Float
  delta : Delta
  trend : Trend

/-- The metrics of one category. -/
structure Section where
  category : Category
  rows : List Row

structure Report where
  oldWorkload : String
  newWorkload : String
  sections : List Section

namespace Row

def ofEntry (e : String × Sample) : Row :=
  let delta := Delta.between e.2.old e.2.new
  { metric := e.1, label := Metric.label e.1, old := e.2.old, new := e.2.new, delta,
    trend := Metric.trend e.1 delta }

open Json in
def toJson (r : Row) : Value :=
  .ofFields [
    ("metric", .text r.metric), ("label", .text r.label), ("old", .ofFloat r.old), ("new", .ofFloat r.new),
    ("delta", .ofFields (match r.delta with
      | .defined v => [("kind", .text "defined"), ("value", .ofFloat v)]
      | .undefined => [("kind", .text "undefined")])),
    ("trend", .text r.trend.name)]

end Row

namespace Section

def title (s : Section) : String := s.category.title

/-- The section of a category, its rows ordered by name. -/
def ofEntries (category : Category) (entries : List (String × Sample)) : Section where
  category
  rows := ((entries.filter fun e => Metric.category e.1 = category).map Row.ofEntry).mergeSort
    fun a b => decide (a.metric ≤ b.metric)

open Json in
def toJson (s : Section) : Value :=
  .ofFields [("category", .text s.category.name), ("title", .text s.title), ("rows", .arr (s.rows.map Row.toJson))]

end Section

namespace Report

/-- The report of a payload. -/
def ofPayload (p : Payload) : Report where
  oldWorkload := p.oldWorkload
  newWorkload := p.newWorkload
  sections := (Category.all.map fun c => Section.ofEntries c p.metrics.entries).filter (!·.rows.isEmpty)

def rows (r : Report) : List Row := r.sections.flatMap (·.rows)

def rowCount (r : Report) : Nat := r.rows.length

open Json in
def toJson (r : Report) : Value :=
  .ofFields [("old_workload", .text r.oldWorkload), ("new_workload", .text r.newWorkload),
    ("groups", .arr (r.sections.map Section.toJson))]

end Report

end BenchCompare
