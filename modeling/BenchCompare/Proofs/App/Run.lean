import BenchCompare.App
import BenchCompare.Proofs.Page.Answers
import BenchCompare.Proofs.Picker.Choice

/-!
# Runs of the dashboard

* `App.run`: the effect of a list of events.
* `App.Moves`: all that an event can do, as a relation with one constructor for each case. `moves_step` says that
  nothing else happens.
* `picker_setPicker`, `picker_change`, `params_change`: the pickers and the inputs after the operations that touch
  them. `exists_receive` says that no outcome does.
* `App.Counts`, `App.accept`: the outcomes that count, and what they do. `receive_of_counts`, `receive_of_not_counts`:
  nothing else does anything.
* `exists_of_start`, `page_start`, `kind_start`, `isOpen_start`: what a dashboard is when it is opened.
-/

namespace BenchCompare.App

def run (a : App) (es : List Event) : App := es.foldl step a

theorem run_append (a : App) (es es' : List Event) : a.run (es ++ es') = (a.run es).run es' := List.foldl_append

theorem run_concat (a : App) (es : List Event) (e : Event) : a.run (es ++ [e]) = (a.run es).step e :=
  run_append a es [e]

/-! ### Pickers and inputs -/

theorem picker_setPicker (a : App) (side side' : Side) (p : Picker) :
    (a.setPicker side p).picker side' = if side' = side then p else a.picker side' := by
  cases side <;> cases side' <;> rfl

@[simp] theorem params_setPicker (a : App) (side : Side) (p : Picker) : (a.setPicker side p).params = a.params := by
  cases side <;> rfl

@[simp] theorem params_syncPickers (a : App) : a.syncPickers.params = a.params := rfl

theorem picker_syncPickers (a : App) (side : Side) :
    a.syncPickers.picker side = (a.picker side).adopt (a.params.ref side) := by
  cases side <;> rfl

@[simp] theorem params_change (a : App) (c : Change) : (a.change c).params = a.params.apply c :=
  Page.params_step a.page (.change c)

theorem picker_change (a : App) (c : Change) (side : Side) :
    (a.change c).picker side = (a.picker side).adopt ((a.params.apply c).ref side) := by
  have hsync : (a.change c).picker side = (a.picker side).adopt ((a.change c).params.ref side) := by
    cases side <;> rfl
  rw [hsync, params_change]

@[simp] theorem params_reload (a : App) : a.reload.params = a.params := Page.params_step a.page .reload

/-- An outcome brings a result to the page or replaces the catalog, and the inputs stay as they are. -/
theorem exists_receive (a : App) (now : String) (o : Outcome) : ∃ page catalog note updatedAt,
    page.params = a.params ∧ (a.receive now o).1 = { a with page, catalog, note, updatedAt } := by
  cases o with
  | catalog generation result =>
    simp only [receive]
    split
    · exact ⟨a.page, a.catalog, a.note, a.updatedAt, rfl, rfl⟩
    · split <;> exact ⟨a.page, _, _, a.updatedAt, rfl, rfl⟩
  | comparison generation result =>
    exact ⟨_, a.catalog, a.note, _, Page.params_step a.page (.complete generation result), rfl⟩

@[simp] theorem params_receive (a : App) (now : String) (o : Outcome) : (a.receive now o).1.params = a.params := by
  obtain ⟨page, catalog, note, updatedAt, hparams, hreceive⟩ := exists_receive a now o
  rw [hreceive]
  exact hparams

@[simp] theorem picker_receive (a : App) (now : String) (o : Outcome) (side : Side) :
    (a.receive now o).1.picker side = a.picker side := by
  obtain ⟨page, catalog, note, updatedAt, -, hreceive⟩ := exists_receive a now o
  rw [hreceive]
  cases side <;> rfl

theorem isOpen_of_openSide? {a : App} {side : Side} (h : a.openSide? = some side) : (a.picker side).isOpen = true := by
  unfold openSide? at h
  split at h
  · next ho =>
    obtain rfl := Option.some.inj h
    exact ho
  split at h
  · next hn =>
    obtain rfl := Option.some.inj h
    exact hn
  · cases h

theorem isOpen_of_openSide?_eq_none {a : App} (h : a.openSide? = none) (side : Side) :
    (a.picker side).isOpen = false := by
  unfold openSide? at h
  split at h
  · cases h
  · next hold =>
    split at h
    · cases h
    · next hnew =>
      cases side with
      | old => exact Bool.eq_false_iff.2 hold
      | new => exact Bool.eq_false_iff.2 hnew

/-! ### Outcomes -/

/-- The outcome is of the last load of the catalog, or it is the result that the page waits for. -/
def Counts (a : App) : Outcome → Prop
  | .catalog generation _ => generation = a.catalogGeneration
  | .comparison generation _ => a.page.loader.awaits generation = true

/-- The note beside what a load of the catalog has brought. -/
def noteOf : Except Failure Catalog → Option String
  | .ok _ => none
  | .error _ => some missingCatalogNote

/-- What an outcome does if it counts: a load replaces the catalog and its note, and a result is shown with its time. -/
def accept (a : App) (now : String) : Outcome → App
  | .catalog _ result => { a with catalog := result.toOption, note := noteOf result }
  | .comparison _ result =>
    { a with page := { a.page with loader := { a.page.loader with status := Loader.statusOf result } },
             updatedAt := some now }

theorem receive_of_counts {a : App} {o : Outcome} (h : a.Counts o) (now : String) :
    a.receive now o = (a.accept now o, true) := by
  cases o with
  | catalog generation result =>
    obtain rfl : generation = a.catalogGeneration := h
    cases result <;> exact if_neg (not_not_intro rfl)
  | comparison generation result =>
    rw [receive, Page.complete_of_awaits h]
    rfl

theorem receive_of_not_counts {a : App} {o : Outcome} (h : ¬ a.Counts o) (now : String) :
    a.receive now o = (a, false) := by
  cases o with
  | catalog generation result => exact if_pos h
  | comparison generation result =>
    rw [receive, Page.complete_of_not_awaits h]
    rfl

theorem receive_counts_iff (a : App) (now : String) (o : Outcome) : (a.receive now o).2 = true ↔ a.Counts o := by
  by_cases h : a.Counts o
  · rw [receive_of_counts h]
    exact iff_of_true rfl h
  · rw [receive_of_not_counts h]
    exact iff_of_false Bool.false_ne_true h

/-! ### All that can happen -/

/-- The ways in which an event changes the dashboard. -/
inductive Moves (a : App) : Event → App → Prop where
  /-- The open picker takes a key other than Enter. -/
  | edit {k : Keystroke} {side : Side} {p : Picker} (ho : a.openSide? = some side)
    (hp : (a.picker side).Edits a.catalog p) : Moves a (.key k) (a.setPicker side p)
  /-- Enter chooses a ref in the open picker, and the page takes it over. -/
  | choose {k : Keystroke} {side : Side} {p : Picker} {value : String} (hk : k.key = .enter)
    (ho : a.openSide? = some side) (hp : (a.picker side).Confirms a.catalog p value) :
    Moves a (.key k) ((a.setPicker side p).change (.ref side value))
  /-- No picker is open, and a shortcut opens one. -/
  | activate {k : Keystroke} {side : Side} (ho : a.openSide? = none) (hr : a.bindings.route k .dashboard = some side) :
    Moves a (.key k) (a.setPicker side (a.picker side).activate)
  /-- A key moves a side to another workload. -/
  | cycle {k : Keystroke} {side : Side} {w : String} : Moves a (.key k) (a.change (.workload side w))
  /-- A key scrolls or quits, or it has no meaning. -/
  | view {k : Keystroke} {scroll : Nat} {quit : Bool} : Moves a (.key k) { a with scroll, quit }
  | change {c : Change} : Moves a (.change c) (a.change c)
  /-- The comparison or the catalog is asked for again, by a key or without one. -/
  | reload {e : Event} : Moves a e a.reload
  | reloadCatalog {e : Event} : Moves a e a.reloadCatalog
  | receive {now : String} {o : Outcome} : Moves a (.outcome now o) (a.receive now o).1
  | unmount : Moves a .unmount a.unmountShortcuts

theorem moves_pressInPicker {a : App} {side : Side} (ho : a.openSide? = some side) (k : Keystroke) :
    Moves a (.key k) (a.pressInPicker side k) := by
  unfold pressInPicker
  dsimp only
  split
  · exact .edit ho .dismiss
  · next hk =>
    obtain ⟨p, value, hconfirm, hp⟩ := Picker.confirm_of_isOpen (isOpen_of_openSide? ho) a.catalog
    rw [hconfirm]
    exact .choose hk ho hp
  · exact .edit ho .up
  · exact .edit ho .down
  · exact .edit ho .down
  · exact .edit ho (.type _)
  · split
    · split
      · exact .edit ho (.type "")
      · exact .view
    split
    · exact .view
    · exact .edit ho (.type _)
  · exact .view

theorem moves_cycleWorkload (a : App) (side : Side) (k : Keystroke) : Moves a (.key k) (a.cycleWorkload side) := by
  unfold cycleWorkload
  split
  · split
    · exact .cycle
    · exact .view
  · exact .view

theorem moves_pressCommand (a : App) (k : Keystroke) : Moves a (.key k) (a.pressCommand k) := by
  unfold pressCommand
  split
  · exact .view
  · exact .view
  · exact .view
  · exact .view
  · exact .view
  · split
    · exact .view
    split
    · exact .view
    split
    · exact moves_cycleWorkload a .old k
    split
    · exact moves_cycleWorkload a .new k
    split
    · exact .reload
    split
    · exact .reloadCatalog
    · exact .view
  · exact .view

theorem moves_step (a : App) (e : Event) : Moves a e (a.step e) := by
  cases e with
  | key k =>
    simp only [step, press]
    split
    · next side ho => exact moves_pressInPicker ho k
    · next ho =>
      have hfocus : a.focus = .dashboard := by simp [focus, ho]
      rw [hfocus]
      split
      · next side hr => exact .activate ho hr
      · exact moves_pressCommand a k
  | change c => exact .change
  | reload => exact .reload
  | reloadCatalog => exact .reloadCatalog
  | outcome now o => exact .receive
  | unmount => exact .unmount

/-! ### The start -/

theorem exists_of_start {config : Config} {kind : Kind} {query : String} {a : App}
    (h : start config kind query = .ok a) :
    ∃ oldChord newChord, a =
      (({ config, page := .mount kind (.ofQuery config.pageUrl query), oldChord,
          newChord } : App).loadCatalog 1).syncPickers.mountShortcuts := by
  unfold start at h
  cases ho : parseChord .old config.oldShortcut with
  | error e =>
    rw [ho] at h
    cases h
  | ok oldChord =>
    cases hn : parseChord .new config.newShortcut with
    | error e =>
      rw [ho, hn] at h
      cases h
    | ok newChord =>
      rw [ho, hn] at h
      exact ⟨oldChord, newChord, (Except.ok.inj h).symm⟩

@[simp] theorem page_loadCatalog (a : App) (generation : Nat) : (a.loadCatalog generation).page = a.page := rfl

@[simp] theorem kind_loadCatalog (a : App) (generation : Nat) : (a.loadCatalog generation).kind = a.kind := rfl

@[simp] theorem picker_loadCatalog (a : App) (generation : Nat) (side : Side) :
    (a.loadCatalog generation).picker side = a.picker side := by
  cases side <;> rfl

@[simp] theorem page_syncPickers (a : App) : a.syncPickers.page = a.page := rfl

@[simp] theorem page_mountShortcuts (a : App) : a.mountShortcuts.page = a.page := rfl

@[simp] theorem params_mountShortcuts (a : App) : a.mountShortcuts.params = a.params := rfl

@[simp] theorem kind_syncPickers (a : App) : a.syncPickers.kind = a.kind := rfl

@[simp] theorem kind_mountShortcuts (a : App) : a.mountShortcuts.kind = a.kind := rfl

@[simp] theorem picker_mountShortcuts (a : App) (side : Side) : a.mountShortcuts.picker side = a.picker side := by
  cases side <;> rfl

section Start

variable {config : Config} {kind : Kind} {query : String} {a : App} (h : start config kind query = .ok a)
include h

theorem page_start : a.page = .mount kind (.ofQuery config.pageUrl query) := by
  obtain ⟨oldChord, newChord, rfl⟩ := exists_of_start h
  rw [page_mountShortcuts, page_syncPickers, page_loadCatalog]

theorem kind_start : a.kind = kind := by
  obtain ⟨oldChord, newChord, rfl⟩ := exists_of_start h
  rw [kind_mountShortcuts, kind_syncPickers, kind_loadCatalog, App.kind, Page.kind_mount]

theorem isOpen_start (side : Side) : (a.picker side).isOpen = false := by
  obtain ⟨oldChord, newChord, rfl⟩ := exists_of_start h
  rw [picker_mountShortcuts, picker_syncPickers, Picker.isOpen_adopt, picker_loadCatalog]
  cases side <;> rfl

end Start

end BenchCompare.App
