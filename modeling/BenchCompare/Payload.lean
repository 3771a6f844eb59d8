import BenchCompare.Json.Reader

/-!
# Comparison payloads

The measurements of one comparison as the service sends them: two workload names and a map from metric names to
samples. Of several samples under one name the last counts.
-/

namespace BenchCompare

/-- The values of one metric on both sides. -/
structure Sample where
  old : Float
  new : Float

/-- A map from metric names to samples. -/
structure Metrics where
  entries : List (String × Sample)
  nodup : (entries.map (·.1)).Nodup

namespace Metrics

def empty : Metrics := ⟨[], List.nodup_nil⟩

/-- The map with this sample under this name. -/
def insert (m : Metrics) (name : String) (sample : Sample) : Metrics where
  entries := m.entries.filter (·.1 != name) ++ [(name, sample)]
  nodup := by
    have h : ((m.entries.filter (·.1 != name)).map (·.1)).Nodup :=
      (List.filter_sublist.map _).nodup m.nodup
    simp only [List.map_append, List.map_cons, List.map_nil]
    rw [List.nodup_append]
    refine ⟨h, by simp, ?_⟩
    intro a ha b hb
    obtain ⟨e, he, rfl⟩ := List.mem_map.1 ha
    have := (List.mem_filter.1 he).2
    simp only [List.mem_singleton] at hb
    subst hb
    simpa using this

/-- The map of a list of named samples. -/
def ofList (l : List (String × Sample)) : Metrics := l.foldl (fun m e => m.insert e.1 e.2) empty

end Metrics

/-- The measurements of one comparison. -/
structure Payload where
  oldWorkload : String
  newWorkload : String
  metrics : Metrics

namespace Sample

open Json in
def ofJson? (v : Value) : Option Sample := do
  let s ← Source.ofValue? ["old", "new"] v
  some { old := ← s.get? "old" 0 Value.toFloat?, new := ← s.get? "new" 1 Value.toFloat? }

end Sample

namespace Metrics

open Json in
def ofJson? : Value → Option Metrics
  | .obj fields => do
    let entries ← fields.mapM fun f => do some (← f.1, ← Sample.ofJson? f.2)
    some (ofList entries)
  | _ => none

end Metrics

namespace Payload

open Json in
def ofJson? (v : Value) : Option Payload := do
  let s ← Source.ofValue? ["old_workload", "new_workload", "metrics"] v
  some {
    oldWorkload := ← s.getD? "old_workload" 0 Value.toText? ""
    newWorkload := ← s.getD? "new_workload" 1 Value.toText? ""
    metrics := ← s.getD? "metrics" 2 Metrics.ofJson? .empty }

/-- The payload that a response body holds. -/
def ofBytes? (body : List UInt8) : Option Payload := (Json.read? body).bind ofJson?

end Payload

end BenchCompare
