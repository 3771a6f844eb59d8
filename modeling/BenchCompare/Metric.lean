import BenchCompare.Decimal.Fixed
import BenchCompare.Text.Casing

/-!
# Metrics

A metric is named `family` or `family.component`. The family gives its category, its label and the direction in
which it improves.

* `Metric.category`, `Metric.label`: how a metric is grouped and shown.
* `Delta`: the relative change of a metric, undefined without a finite base.
* `Metric.trend`: whether a change is an improvement.
-/

namespace BenchCompare

/-- The groups of metrics, in the order in which they are shown. -/
inductive Category where
  | throughput | latency | reliability | cpuTime | memory | other
deriving DecidableEq, Repr

namespace Category

/-- All categories in the order in which they are shown. -/
def all : List Category := [.throughput, .latency, .reliability, .cpuTime, .memory, .other]

def title : Category → String
  | .throughput => "Throughput" | .latency => "Latency" | .reliability => "Reliability"
  | .cpuTime => "CPU time" | .memory => "Memory" | .other => "Other"

/-- The name in machine-readable output. -/
def name : Category → String
  | .throughput => "throughput" | .latency => "latency" | .reliability => "reliability"
  | .cpuTime => "cpu_time" | .memory => "memory" | .other => "other"

/-- The place in the order in which categories are shown. -/
def rank : Category → Nat
  | .throughput => 0 | .latency => 1 | .reliability => 2 | .cpuTime => 3 | .memory => 4 | .other => 5

end Category

/-- The relative change `(new - old) / old`. -/
inductive Delta where
  | defined (value : Float) | undefined

namespace Delta

/-- The change from one value to another, where it makes sense. -/
def between (old new : Float) : Delta :=
  if old == 0.0 || !old.isFinite || !new.isFinite then .undefined else .defined ((new - old) / old)

def value? : Delta → Option Float
  | .defined v => some v
  | .undefined => none

/-- The change in percent, with a sign and two places. -/
def display : Delta → String
  | .defined v => Decimal.fixed 2 true (v * 100.0) ++ "%"
  | .undefined => "n/a"

end Delta

inductive Trend where
  | better | worse | unchanged
deriving DecidableEq, Repr

def Trend.name : Trend → String
  | .better => "better" | .worse => "worse" | .unchanged => "unchanged"

/-- A family of metrics that is known by name. -/
structure Family where
  name : String
  category : Category
  label : String
  lowerIsBetter : Bool
deriving DecidableEq, Repr

namespace Metric

def families : List Family := [
  ⟨"qps", .throughput, "QPS", false⟩,
  ⟨"tps", .throughput, "TPS", false⟩,
  ⟨"latency", .latency, "Latency", true⟩,
  ⟨"errors", .reliability, "Errors", true⟩,
  ⟨"reconnects", .reliability, "Reconnects", true⟩,
  ⟨"cpu_time", .cpuTime, "CPU time", true⟩,
  ⟨"mem_alloc", .memory, "Memory allocated", true⟩]

/-- The part of a name before its first point. -/
def familyName (metric : String) : String := String.ofList (metric.toList.takeWhile (· != '.'))

/-- The part of a name after its first point. -/
def component? (metric : String) : Option String :=
  match metric.toList.dropWhile (· != '.') with
  | [] => none
  | _ :: rest => some (String.ofList rest)

def family? (metric : String) : Option Family := families.find? (·.name == familyName metric)

def category (metric : String) : Category := ((family? metric).map (·.category)).getD .other

/-- The name shown for a metric. Queries read as "Total QPS", other components stand in brackets. -/
def label (metric : String) : String :=
  match family? metric with
  | none => metric
  | some f =>
    match component? metric with
    | none => f.label
    | some c => if f.name == "qps" then Text.capitalize c ++ " QPS" else f.label ++ " (" ++ c ++ ")"

/-- A smaller value is the improvement. -/
def lowerIsBetter (metric : String) : Bool := ((family? metric).map (·.lowerIsBetter)).getD false

/-- Whether a change of this metric is an improvement. -/
def trend (metric : String) : Delta → Trend
  | .undefined => .unchanged
  | .defined d =>
    if d == 0.0 then .unchanged
    else if decide (d < 0.0) == lowerIsBetter metric then .better
    else .worse

end Metric

/-- A value as it stands in tables: whole numbers below `10 ^ 15` without places, others with two. -/
def valueText (x : Float) : String :=
  Decimal.fixed (if (Double.ofFloat x).isWholeBelow (Nat.pow 10 15) then 0 else 2) false x

end BenchCompare
