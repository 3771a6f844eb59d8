import BenchCompare.Proofs.App.Highlight
import BenchCompare.Proofs.App.Opening
import BenchCompare.Proofs.App.Typing
import BenchCompare.Proofs.Page.Changes
import BenchCompare.Proofs.Page.Sharing

/-!
# Entering a ref

The user types a ref into an open picker and presses Enter.

* `exists_page_run`: a run of the dashboard is a run of its page. So what every run of a page keeps holds of the page of
  every dashboard (`coherent_run_start`, `mirrors_run_start`).
* `page_choose`, `isOpen_choose`, `query_choose`, `fetchesSince_choose`, `status_choose`: what a choice does to the page
  and to the pickers, and what it asks for.
* `run_entered`: to type a text and press Enter is to choose the text in the box followed by it.

Main statement: `run_entered_start`.
-/

namespace BenchCompare

@[simp] theorem Params.ref_apply_ref_self (p : Params) (side : Side) (value : String) :
    (p.apply (.ref side value)).ref side = value := by
  cases side <;> rfl

@[simp] theorem Params.workload_apply_ref (p : Params) (side side' : Side) (value : String) :
    (p.apply (.ref side value)).workload side' = p.workload side' := by
  cases side <;> cases side' <;> rfl

namespace App

/-! ### The page in a run -/

theorem Moves.exists_page {a a' : App} {e : Event} (hm : Moves a e a') :
    ∃ es : List Loader.Event, a'.page = a.page.run es := by
  cases hm with
  | @edit _ side | @activate _ side => exact ⟨[], by cases side <;> rfl⟩
  | @choose _ side _ value => exact ⟨[.change (.ref side value)], by cases side <;> rfl⟩
  | @cycle _ side w => exact ⟨[.change (.workload side w)], rfl⟩
  | @change c => exact ⟨[.change c], rfl⟩
  | view | reloadCatalog | unmount => exact ⟨[], rfl⟩
  | reload => exact ⟨[.reload], rfl⟩
  | @receive now o =>
    cases o with
    | comparison generation result => exact ⟨[.complete generation result], rfl⟩
    | catalog generation result =>
      refine ⟨[], ?_⟩
      by_cases h : a.Counts (.catalog generation result)
      · rw [receive_of_counts h]
        rfl
      · rw [receive_of_not_counts h]
        rfl

theorem exists_page_run (a : App) (es : List Event) : ∃ es' : List Loader.Event, (a.run es).page = a.page.run es' := by
  induction es generalizing a with
  | nil => exact ⟨[], rfl⟩
  | cons e es ih =>
    obtain ⟨first, hfirst⟩ := (moves_step a e).exists_page
    obtain ⟨rest, hrest⟩ := ih (a.step e)
    refine ⟨first ++ rest, ?_⟩
    rw [Page.run_append, ← hfirst]
    exact hrest

section Start

variable {config : Config} {kind : Kind} {query : String} {a : App} (h : start config kind query = .ok a)
include h

theorem coherent_run_start (es : List Event) : Loader.Coherent (a.run es).page.loader (a.run es).page.requests := by
  obtain ⟨es', hpage⟩ := exists_page_run a es
  rw [hpage, page_start h]
  exact Page.coherent_run (Page.coherent_mount kind _) es'

theorem target_run_start (es : List Event) :
    (a.run es).page.loader.target = Target.ofParams? kind (a.run es).params := by
  have hkind : (a.run es).kind = kind := (kind_run a es).trans (kind_start h)
  rw [(coherent_run_start h es).target_eq, ← hkind]
  rfl

theorem mirrors_run_start (es : List Event) :
    (a.run es).page.Mirrors (AddressBar.ofQuery config.pageUrl query).query := by
  obtain ⟨es', hpage⟩ := exists_page_run a es
  rw [hpage, page_start h]
  exact (Page.mirrors_mount kind _).run es'

end Start

/-! ### A choice -/

section Choose

variable (a : App) (side : Side) (pick : Picker.Pick)

theorem page_choose : (a.choose side pick).page = a.page.change (.ref side pick.value) := by
  cases side <;> rfl

@[simp] theorem params_choose : (a.choose side pick).params = a.params.apply (.ref side pick.value) := by
  rw [choose, params_change, params_setPicker]

theorem isOpen_choose (side' : Side) :
    ((a.choose side pick).picker side').isOpen = if side' = side then false else (a.picker side').isOpen := by
  rw [choose, picker_change, Picker.isOpen_adopt, picker_setPicker]
  split <;> rfl

/-- A choice writes the inputs into the query that it finds. -/
theorem query_choose {query : String} (h : a.page.Mirrors query) :
    (a.choose side pick).page.address.query = Query.write a.kind a.page.address.query (a.choose side pick).params := by
  rw [App.params, page_choose]
  exact h.query_step (.change (.ref side pick.value))

/-- A choice asks for the target that comes with it. -/
theorem fetchesSince_choose : (a.choose side pick).fetchesSince a =
    (Target.arrival? a.page.loader.target (a.choose side pick).page.loader.target).toList.map
      fun t => .comparison ⟨a.page.loader.generation + 1, t⟩ := by
  have hloads : (a.choose side pick).catalogLoads = a.catalogLoads := by cases side <;> rfl
  have hrequests := Page.requests_change (p := a.page) (.ref side pick.value)
  rw [← page_choose] at hrequests
  rw [fetchesSince, fetchesAfter, hloads, hrequests, List.drop_left, List.drop_length, List.map_map]
  rfl

theorem status_choose {t : Target}
    (ht : Target.arrival? a.page.loader.target (a.choose side pick).page.loader.target = some t) :
    (a.choose side pick).page.status = .loading := by
  rw [page_choose] at ht ⊢
  exact Page.status_change _ ht

end Choose

/-- To type a text into the open picker and press Enter is to choose what is in the box followed by the text. -/
theorem run_entered {a : App} {side : Side} (ho : a.openSide? = some side) (hh : (a.picker side).highlight = none)
    (text : String) {enter : Keystroke} (hk : enter.key = .enter) :
    a.run ((text.toList.map Keystroke.plain ++ [enter]).map .key) =
      a.choose side (.text ((a.picker side).input ++ text)) := by
  set p : Picker := { a.picker side with input := (a.picker side).input ++ text }
  have hkeys : ∀ k ∈ text.toList.map Keystroke.plain, k.key ≠ .enter ∧ k.key ≠ .esc := by
    intro k hmem
    obtain ⟨c, -, rfl⟩ := List.mem_map.1 hmem
    exact ⟨Key.noConfusion, Key.noConfusion⟩
  have htyped : (text.toList.map Keystroke.plain).foldl (Picker.typed a.catalog) (a.picker side) = p := by
    rw [Picker.foldl_typed_plain _ (isOpen_of_openSide? ho) hh, String.ofList_toList]
  have hopen : (a.setPicker side p).openSide? = some side := openSide?_setPicker ho (isOpen_of_openSide? ho)
  have hpicker : (a.setPicker side p).picker side = p := by rw [picker_setPicker, if_pos rfl]
  have hpick : p.enterPick (a.setPicker side p).catalog = .text p.input := by
    rw [Picker.enterPick, Picker.highlighted?, hh]
    rfl
  rw [List.map_append, run_append, run_keys ho hkeys, htyped]
  calc (a.setPicker side p).press enter = (a.setPicker side p).choose side (.text p.input) := by
        rw [press_enter hopen hk, hpicker, hpick]
    _ = a.choose side (.text p.input) := by
        rw [choose, choose, hpicker, setPicker_setPicker]
        rfl

/-! ### The main statement -/

/-- **What is entered reaches the page as it was typed.** Whatever the chords are, let a picker be open without a
highlight at some point of a run. The characters of a text, one after the other, and then Enter close the picker. They
set the ref of its side to what was in the box followed by the text, apart from blank space at the ends, and leave the
other inputs alone. The inputs are written into the query of the page. If the comparison has another target now, that
target alone is asked for, and the page waits for it; otherwise nothing is asked for. -/
theorem run_entered_start {config : Config} {kind : Kind} {query : String} {a : App}
    (h : start config kind query = .ok a) (es : List Event) {side : Side} (ho : ((a.run es).picker side).isOpen = true)
    (hh : ((a.run es).picker side).highlight = none) (text : String) {enter : Keystroke} (hk : enter.key = .enter) :
    let b := a.run es
    let b' := b.run ((text.toList.map Keystroke.plain ++ [enter]).map .key)
    let before := Target.ofParams? kind b.params
    let after := Target.ofParams? kind b'.params
    (∀ side', (b'.picker side').isOpen = false) ∧
    b'.params.ref side = Text.trim ((b.picker side).input ++ text) ∧
    (∀ side', side' ≠ side → b'.params.ref side' = b.params.ref side') ∧
    (∀ side', b'.params.workload side' = b.params.workload side') ∧
    b'.page.address.query = Query.write kind b.page.address.query b'.params ∧
    (∀ target, after = some target → after ≠ before →
      b'.fetchesSince b = [.comparison ⟨b.page.loader.generation + 1, target⟩] ∧ b'.page.status = .loading) ∧
    (after = none ∨ after = before → b'.fetchesSince b = []) := by
  intro b b' before after
  have horderly : b.Orderly := orderly_run (orderly_start h) es
  have hb' : b' = b.choose side (.text ((b.picker side).input ++ text)) :=
    run_entered (horderly.openSide?_eq_some ho) hh text hk
  have hparams : b'.params = b.params.apply (.ref side (Text.trim ((b.picker side).input ++ text))) := by
    rw [hb', params_choose]
    rfl
  have hbefore : b.page.loader.target = before := target_run_start h es
  have hafter : b'.page.loader.target = after := by
    have htarget := target_run_start h (es ++ (text.toList.map Keystroke.plain ++ [enter]).map .key)
    rwa [run_append] at htarget
  have hfetches : b'.fetchesSince b =
      (Target.arrival? before after).toList.map fun t => .comparison ⟨b.page.loader.generation + 1, t⟩ := by
    rw [← hbefore, ← hafter, hb', fetchesSince_choose]
  refine ⟨?_, ?_, ?_, ?_, ?_, ?_, ?_⟩
  · intro side'
    rw [hb', isOpen_choose]
    split
    · rfl
    · next hne => exact horderly.isOpen_of_ne ho hne
  · rw [hparams, Params.ref_apply_ref_self]
  · intro side' hne
    rw [hparams, Params.ref_apply_ref_of_ne _ hne]
  · intro side'
    rw [hparams, Params.workload_apply_ref]
  · rw [hb', query_choose b side _ (mirrors_run_start h es), kind_run, kind_start h]
  · intro target htarget hne
    have harrival : Target.arrival? before after = some target := (Target.arrival?_of_ne hne).trans htarget
    refine ⟨by rw [hfetches, harrival]; rfl, ?_⟩
    rw [← hbefore, ← hafter, hb'] at harrival
    rw [hb']
    exact status_choose b side _ harrival
  · rintro (hnone | hsame)
    · rw [hfetches, hnone, Target.arrival?_none_right]
      rfl
    · rw [hfetches, hsame, Target.arrival?_self]
      rfl

/-- The keys that change a workload, ask again or quit are text in the box. -/
theorem run_entered_commands :
    let b := blank.run [.key (.plain 'o')]
    let enter : Keystroke := { key := .enter }
    let b' := b.run ((" wWrRoq ".toList.map Keystroke.plain ++ [enter]).map .key)
    start {} .foreignKeys "" = .ok blank ∧ (b.picker .old).isOpen = true ∧ (b.picker .old).highlight = none ∧
      (b'.picker .old).isOpen = false ∧ b'.params = { oldRef := "wWrRoq" } ∧
      b'.fetchesSince b = [.comparison ⟨1, .foreignKeys "wWrRoq" "" ""⟩] ∧ b'.page.status = .loading := by
  intro b enter b'
  have hstart : start {} .foreignKeys "" = .ok blank := rfl
  have ho : (b.picker .old).isOpen = true := by decide +kernel
  have hh : (b.picker .old).highlight = none := by decide +kernel
  have henter : enter.key = .enter := rfl
  have hbefore : Target.ofParams? .foreignKeys b.params = none := by decide +kernel
  have hparams : b'.params = { oldRef := "wWrRoq" } := by decide +kernel
  have hafter : Target.ofParams? .foreignKeys b'.params = some (.foreignKeys "wWrRoq" "" "") := by
    rw [hparams]
    decide
  obtain ⟨hclosed, -, -, -, -, hasked, -⟩ :=
    run_entered_start hstart [.key (.plain 'o')] ho hh " wWrRoq " henter
  have hne : Target.ofParams? .foreignKeys b'.params ≠ Target.ofParams? .foreignKeys b.params := by
    rw [hafter, hbefore]
    exact Option.some_ne_none _
  obtain ⟨hfetches, hstatus⟩ := hasked _ hafter hne
  exact ⟨hstart, ho, hh, hclosed .old, hparams, hfetches, hstatus⟩

end App

end BenchCompare
