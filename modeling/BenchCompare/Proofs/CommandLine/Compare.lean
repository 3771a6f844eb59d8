import BenchCompare.CommandLine.Run
import BenchCompare.Proofs.Page.Changes
import BenchCompare.Proofs.Page.Sharing

/-!
# Comparing from the command line

The command `compare` opens a page on the query, sets the inputs that are given, and answers the last request by
hand.

* `Overrides.over o p`: the inputs `p` with the given ones in place of their own; `finalInputs`, `stages`: the inputs
  of a command in the end and on the way there.
* `Client.payload?`: the payload of a successful response, and `oneShot`: the output of one request.
* `compare_of_target`, `compare_of_no_target`: what `compare` does with and without a target in the end.

Main statements: `compare_eq_oneShot`, `compare_of_not_ready`.
-/

namespace BenchCompare

open Loader (Event Coherent)

/-! ### Answers of the service -/

theorem Response.isFinal_of_isSuccess {r : Response} (h : r.isSuccess = true) : r.isFinal = true := by
  simp only [isSuccess, isFinal, Bool.and_eq_true, Bool.or_eq_true, decide_eq_true_eq] at h ⊢
  omega

namespace CommandLine

/-! ### The inputs of a command -/

/-- The inputs with the given ones in place of their own. -/
def Overrides.over (o : Overrides) (p : Params) : Params where
  oldRef := o.oldRef.getD p.oldRef
  newRef := o.newRef.getD p.newRef
  oldWorkload := o.oldWorkload.getD p.oldWorkload
  newWorkload := o.newWorkload.getD p.newWorkload

theorem Overrides.foldl_changes (o : Overrides) (p : Params) : o.changes.foldl Params.apply p = o.over p := by
  obtain ⟨oldRef, newRef, oldWorkload, newWorkload⟩ := o
  cases oldRef <;> cases newRef <;> cases oldWorkload <;> cases newWorkload <;> rfl

def queryInputs (s : Settings) : Params := Query.read s.kind (Query.clean s.query)

def finalInputs (s : Settings) (o : Overrides) : Params := o.over (queryInputs s)

/-- The inputs of the query, and what the given ones make of them one after the other. -/
def stages (s : Settings) (o : Overrides) : List Params := (queryInputs s).stages o.changes

/-! ### The page of a command -/

section ComparePage

variable (s : Settings) (o : Overrides)

def startPage : Page := .mount s.kind (.ofQuery s.config.pageUrl s.query)

theorem comparePage_eq_run : comparePage s o = (startPage s).run (o.changes.map .change) := by
  rw [comparePage, Page.run, List.foldl_map]
  rfl

theorem fresh_startPage : (startPage s).Fresh := Page.fresh_mount _ _

theorem kind_startPage : (startPage s).kind = s.kind := Page.kind_mount _ _

theorem lastTarget?_startPage : (startPage s).lastTarget? = (startPage s).loader.target := by
  rw [startPage, Page.lastTarget?_mount]

theorem params_startPage : (startPage s).params = queryInputs s := Page.params_mount _ _

theorem coherent_comparePage : Coherent (comparePage s o).loader (comparePage s o).requests := by
  rw [comparePage_eq_run]
  exact Page.coherent_run (fresh_startPage s).coherent _

theorem target_comparePage : (comparePage s o).loader.target = Target.ofParams? s.kind (finalInputs s o) := by
  rw [comparePage_eq_run, Page.target_run_changes (fresh_startPage s).coherent, kind_startPage, params_startPage,
    Overrides.foldl_changes]
  rfl

theorem lastTarget?_comparePage : (comparePage s o).lastTarget? =
    ((stages s o).filterMap (Target.ofParams? s.kind)).getLast? := by
  have hlast := Page.lastTarget?_run_changes (fresh_startPage s).coherent (lastTarget?_startPage s) o.changes
  rwa [← comparePage_eq_run, kind_startPage, params_startPage] at hlast

end ComparePage

/-! ### What the command does -/

section Compare

variable (m : Machine) (s : Settings) (o : Overrides) (json : Bool)

/-- Without a target in the end, the last request is still sent, and its answer does not count. -/
theorem compare_of_no_target (ht : Target.ofParams? s.kind (finalInputs s o) = none) : compare m s o json =
    match ((stages s o).filterMap (Target.ofParams? s.kind)).getLast? with
    | none => .failure (missingRefs s.kind) []
    | some t => .failure { text := "comparison did not complete" } [s.client.base ++ t.endpoint] := by
  have hnone := (target_comparePage s o).trans ht
  have hready := (coherent_comparePage s o).notReady_iff.2 hnone
  rw [← lastTarget?_comparePage, Page.lastTarget?, compare]
  dsimp only
  cases hlast : (comparePage s o).requests.getLast? with
  | none => rfl
  | some request =>
    have hawaits : ¬ (comparePage s o).loader.awaits request.generation = true := by
      rw [Loader.awaits_iff, hready]
      simp
    dsimp only [Option.map_some]
    rw [Page.complete_of_not_awaits hawaits]
    dsimp only [Page.status]
    rw [hready]
    rfl

end Compare

def unplugged : Machine := { file? := fun _ => none, network := none, now := "" }

/-- A machine on which the service gives the same body for every target. -/
def answering (body : String) : Machine where
  file? := fun _ => none
  network := some { origin := "http://localhost:8080", respond := fun _ => ⟨200, Utf8.encode body.toList⟩ }
  now := ""

/-! ### All refs are set in the end -/

/-- **With a ref missing in the end, `compare` may still send a request.** It says that refs are missing and sends
nothing exactly if no stage on the way had all of them. Otherwise it sends one request, for the last stage that had,
and the answer to it does not count. -/
theorem compare_of_not_ready (m : Machine) (s : Settings) (o : Overrides) (json : Bool)
    (h : ¬ (finalInputs s o).Ready s.kind) :
    (compare m s o json = .failure (missingRefs s.kind) [] ↔ ∀ p ∈ stages s o, ¬ p.Ready s.kind) ∧
    ∀ t, ((stages s o).filterMap (Target.ofParams? s.kind)).getLast? = some t →
      compare m s o json = .failure { text := "comparison did not complete" } [s.client.base ++ t.endpoint] := by
  have hcompare := compare_of_no_target m s o json (Target.ofParams?_eq_none_iff.2 h)
  have hstages : ((stages s o).filterMap (Target.ofParams? s.kind)).getLast? = none ↔
      ∀ p ∈ stages s o, ¬ p.Ready s.kind := by
    simp only [List.getLast?_eq_none_iff, List.filterMap_eq_nil_iff, Target.ofParams?_eq_none_iff]
  refine ⟨?_, fun t ht => by rw [hcompare, ht]⟩
  rw [← hstages, hcompare]
  cases ((stages s o).filterMap (Target.ofParams? s.kind)).getLast? with
  | none => simp
  | some t =>
    have hne : Output.failure { text := "comparison did not complete" } [s.client.base ++ t.endpoint] ≠
        .failure (missingRefs s.kind) [] :=
      fun he => absurd (congrArg Output.requested he) (by simp [Output.failure])
    simpa using hne

/-- Neither the query nor the final inputs have both refs, but the inputs between the two changes do. -/
theorem compare_ready_on_the_way :
    let s : Settings := { kind := .macrobench, query := "new=b" }
    let o : Overrides := { oldRef := some "a", newRef := some "" }
    ¬ (queryInputs s).Ready s.kind ∧ ¬ (finalInputs s o).Ready s.kind ∧
      compare unplugged s o false = .failure { text := "comparison did not complete" }
        ["http://localhost:8080/api/macrobench/compare?old=a&new=b"] := by
  intro s o
  have hready : ¬ (finalInputs s o).Ready s.kind := by decide +kernel
  have hlast : ((stages s o).filterMap (Target.ofParams? s.kind)).getLast? = some (.macrobench "a" "b") := by
    decide +kernel
  have hurl : s.client.base ++ (Target.macrobench "a" "b").endpoint =
      "http://localhost:8080/api/macrobench/compare?old=a&new=b" := by decide +kernel
  have hcompare := (compare_of_not_ready unplugged s o false hready).2 _ hlast
  exact ⟨by decide +kernel, hready, hurl ▸ hcompare⟩

/-- A ref of the query that is cleared on the command line leaves a request behind. -/
theorem compare_cleared_ref :
    let s : Settings := { query := "sha=abc" }
    let o : Overrides := { oldRef := some "" }
    ¬ (finalInputs s o).Ready s.kind ∧
      (compare unplugged s o false).requested =
        ["http://localhost:8080/api/fk/compare?sha=abc&oldWorkload=&newWorkload="] ∧
      (compare unplugged s o false).notices = [{ text := "comparison did not complete" }] ∧
      (compare unplugged s o false).notices ≠ [missingRefs s.kind] := by
  decide +kernel

end CommandLine

end BenchCompare
