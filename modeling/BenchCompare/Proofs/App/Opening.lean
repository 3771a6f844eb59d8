import BenchCompare.Proofs.App.Run

/-!
# Which pickers are open

* `Bindings.exists_of_route`: a keystroke that opens a picker plays a chord that is mounted for its side.
* `Moves.opens`: a picker opens only while all are closed, by a keystroke that is routed to its side.
  `Moves.mounted_subset`, `Moves.kind_eq`: no event mounts a chord or changes the kind of the page.
* `App.Orderly a`: chords are mounted and pickers open only for sides of the page, and at most one picker is open.
  `Orderly.moves` is the step, `orderly_start` the start and `orderly_run` the whole run.
* `openSide?_run_of_unmounted`: without mounted chords no picker opens.

Main statement: `opened_run_start`.
-/

namespace BenchCompare

/-! ### Mounted chords -/

namespace Bindings

theorem exists_of_route {b : Bindings} {k : Keystroke} {focus : Focus} {side : Side} (h : b.route k focus = some side) :
    ∃ chord, (side, chord) ∈ b.mounted ∧ chord.Plays k := by
  cases focus with
  | text => cases h
  | dashboard =>
    obtain ⟨⟨side', chord⟩, hfind, rfl⟩ := Option.map_eq_some_iff.1 h
    exact ⟨chord, List.mem_of_find?_eq_some hfind, of_decide_eq_true (List.find?_some hfind :)⟩

theorem mem_mounted_foldl_mount {e : Side × Chord} (chord : Side → Chord) {sides : List Side} {b : Bindings}
    (h : e ∈ (sides.foldl (fun b side => b.mount side (chord side)) b).mounted) : e ∈ b.mounted ∨ e.1 ∈ sides := by
  induction sides generalizing b with
  | nil => exact .inl h
  | cons side sides ih =>
    rcases ih h with hb | hsides
    · rcases List.mem_append.1 hb with hkept | hnew
      · exact .inl (List.mem_filter.1 hkept).1
      · obtain rfl := List.mem_singleton.1 hnew
        exact .inr List.mem_cons_self
    · exact .inr (List.mem_cons_of_mem side hsides)

theorem mounted_unmount_unmount (b : Bindings) : ((b.unmount .old).unmount .new).mounted = [] := by
  rw [unmount, unmount, List.filter_filter, List.filter_eq_nil_iff]
  rintro ⟨side, chord⟩ -
  cases side <;> simp

end Bindings

namespace App

/-! ### What an event can open -/

section Moves

variable {a a' : App} {e : Event}

theorem Moves.opens (hm : Moves a e a') {side : Side} (ho : (a'.picker side).isOpen = true) :
    (a.picker side).isOpen = true ∨
      a.openSide? = none ∧ ∃ k, e = .key k ∧ a.bindings.route k .dashboard = some side := by
  cases hm with
  | @edit k side' p hside hp =>
    rw [picker_setPicker] at ho
    split at ho
    · next hs => exact .inl (hs ▸ hp.isOpen ho)
    · exact .inl ho
  | @choose k side' p value hk hside hp =>
    rw [picker_change, Picker.isOpen_adopt, picker_setPicker] at ho
    split at ho
    · -- the picker that has chosen is closed
      rw [hp.isOpen] at ho
      cases ho
    · exact .inl ho
  | @activate k side' hnone hroute =>
    rw [picker_setPicker] at ho
    split at ho
    · next hs => exact .inr ⟨hnone, k, rfl, hs ▸ hroute⟩
    · exact .inl ho
  | cycle | change => exact .inl (by rwa [picker_change, Picker.isOpen_adopt] at ho)
  | view | reload | reloadCatalog | unmount => exact .inl (by cases side <;> exact ho)
  | receive => exact .inl (by rwa [picker_receive] at ho)

theorem kind_change (a : App) (c : Change) : (a.change c).kind = a.kind := Page.kind_step a.page (.change c)

@[simp] theorem kind_setPicker (a : App) (side : Side) (p : Picker) : (a.setPicker side p).kind = a.kind := by
  cases side <;> rfl

theorem kind_receive (a : App) (now : String) (o : Outcome) : (a.receive now o).1.kind = a.kind := by
  by_cases h : a.Counts o
  · rw [receive_of_counts h]
    cases o <;> rfl
  · rw [receive_of_not_counts h]

theorem Moves.kind_eq (hm : Moves a e a') : a'.kind = a.kind := by
  cases hm with
  | edit | activate => exact kind_setPicker ..
  | choose => exact (kind_change ..).trans (kind_setPicker ..)
  | cycle | change => exact kind_change ..
  | view | reloadCatalog | unmount => rfl
  | reload => exact Page.kind_step a.page .reload
  | receive => exact kind_receive ..

theorem Moves.mounted_subset (hm : Moves a e a') : a'.bindings.mounted ⊆ a.bindings.mounted := by
  cases hm with
  | @edit _ side | @choose _ side | @activate _ side => cases side <;> exact fun _ h => h
  | cycle | change | view | reload | reloadCatalog => exact fun _ h => h
  | @receive now o =>
    obtain ⟨page, catalog, note, updatedAt, -, hreceive⟩ := exists_receive a now o
    rw [hreceive]
    exact fun _ h => h
  | unmount => exact (List.filter_sublist.trans List.filter_sublist).subset

end Moves

/-! ### At most one, and only on the page -/

/-- Chords are mounted and pickers open for sides of the page only, and no two pickers are open. -/
structure Orderly (a : App) : Prop where
  mounted : ∀ e ∈ a.bindings.mounted, e.1 ∈ pickerSides a.kind
  shown : ∀ side, (a.picker side).isOpen = true → side ∈ pickerSides a.kind
  single : ∀ side side', (a.picker side).isOpen = true → (a.picker side').isOpen = true → side = side'

section Orderly

variable {a : App}

/-- **Every event keeps the pickers in order.** A picker opens only while all are closed, and a keystroke is routed to
one side. -/
theorem Orderly.moves (h : a.Orderly) {a' : App} {e : Event} (hm : Moves a e a') : a'.Orderly := by
  refine ⟨fun e he => ?_, fun side ho => ?_, fun side side' ho ho' => ?_⟩
  · rw [hm.kind_eq]
    exact h.mounted e (hm.mounted_subset he)
  · rw [hm.kind_eq]
    rcases hm.opens ho with hwas | ⟨-, k, -, hroute⟩
    · exact h.shown side hwas
    · obtain ⟨chord, hmem, -⟩ := Bindings.exists_of_route hroute
      exact h.mounted _ hmem
  · rcases hm.opens ho with hwas | ⟨hnone, k, rfl, hroute⟩ <;>
      rcases hm.opens ho' with hwas' | ⟨hnone', k', hk', hroute'⟩
    · exact h.single side side' hwas hwas'
    · exact absurd hwas (Bool.eq_false_iff.1 (isOpen_of_openSide?_eq_none hnone' side))
    · exact absurd hwas' (Bool.eq_false_iff.1 (isOpen_of_openSide?_eq_none hnone side'))
    · obtain rfl := Event.key.inj hk'
      exact Option.some.inj (hroute.symm.trans hroute')

theorem orderly_mountShortcuts (hm : a.bindings.mounted = []) (hc : ∀ side, (a.picker side).isOpen = false) :
    a.mountShortcuts.Orderly := by
  have hclosed : ∀ side, ¬ (a.mountShortcuts.picker side).isOpen = true := by
    intro side
    rw [picker_mountShortcuts]
    exact Bool.eq_false_iff.1 (hc side)
  refine ⟨fun e he => ?_, fun side ho => absurd ho (hclosed side), fun side _ ho => absurd ho (hclosed side)⟩
  rcases Bindings.mem_mounted_foldl_mount _ he with hold | hside
  · rw [hm] at hold
    cases hold
  · exact hside

theorem orderly_start {config : Config} {kind : Kind} {query : String} (h : start config kind query = .ok a) :
    a.Orderly := by
  have hc := isOpen_start h
  obtain ⟨oldChord, newChord, rfl⟩ := exists_of_start h
  exact orderly_mountShortcuts rfl fun side => picker_mountShortcuts _ side ▸ hc side

theorem orderly_run (h : a.Orderly) (es : List Event) : (a.run es).Orderly := by
  induction es generalizing a with
  | nil => exact h
  | cons e es ih => exact ih (h.moves (moves_step a e))

theorem kind_run (a : App) (es : List Event) : (a.run es).kind = a.kind := by
  induction es generalizing a with
  | nil => rfl
  | cons e es ih => exact (ih (a.step e)).trans (moves_step a e).kind_eq

theorem mounted_run_subset (a : App) (es : List Event) : (a.run es).bindings.mounted ⊆ a.bindings.mounted := by
  induction es generalizing a with
  | nil => exact fun _ h => h
  | cons e es ih => exact List.Subset.trans (ih (a.step e)) (moves_step a e).mounted_subset

theorem Orderly.openSide?_eq_some (h : a.Orderly) {side : Side} (ho : (a.picker side).isOpen = true) :
    a.openSide? = some side := by
  cases hopen : a.openSide? with
  | none => exact absurd ho (Bool.eq_false_iff.1 (isOpen_of_openSide?_eq_none hopen side))
  | some side' => rw [h.single side' side (isOpen_of_openSide? hopen) ho]

theorem Orderly.isOpen_of_ne (h : a.Orderly) {side side' : Side} (ho : (a.picker side).isOpen = true)
    (hne : side' ≠ side) : (a.picker side').isOpen = false := by
  by_contra hopen
  exact hne (h.single side' side (Bool.not_eq_false _ ▸ hopen) ho)

/-! ### Without mounted chords -/

theorem mounted_run_of_unmount {es : List Event} (h : .unmount ∈ es) : (a.run es).bindings.mounted = [] := by
  obtain ⟨before, after, rfl⟩ := List.append_of_mem h
  have hempty : ((a.run before).step .unmount).bindings.mounted = [] := Bindings.mounted_unmount_unmount _
  rw [run_append]
  exact List.eq_nil_of_subset_nil (hempty ▸ mounted_run_subset ((a.run before).step .unmount) after)

theorem openSide?_eq_none_iff : a.openSide? = none ↔ ∀ side, (a.picker side).isOpen = false := by
  refine ⟨isOpen_of_openSide?_eq_none, fun h => ?_⟩
  have hold : a.oldPicker.isOpen = false := h .old
  have hnew : a.newPicker.isOpen = false := h .new
  rw [openSide?, hold, hnew]
  rfl

/-- Without mounted chords all pickers stay closed. -/
theorem openSide?_run_of_unmounted (hm : a.bindings.mounted = []) (h : a.openSide? = none) (es : List Event) :
    (a.run es).openSide? = none := by
  induction es generalizing a with
  | nil => exact h
  | cons e es ih =>
    have hsubset := (moves_step a e).mounted_subset
    refine ih (List.eq_nil_of_subset_nil (hm ▸ hsubset)) (openSide?_eq_none_iff.2 fun side => ?_)
    by_contra ho
    rcases (moves_step a e).opens (Bool.not_eq_false _ ▸ ho) with hwas | ⟨-, k, -, hroute⟩
    · exact absurd hwas (Bool.eq_false_iff.1 (isOpen_of_openSide?_eq_none h side))
    · obtain ⟨chord, hmem, -⟩ := Bindings.exists_of_route hroute
      rw [hm] at hmem
      cases hmem

end Orderly

/-! ### The main statement -/

/-- **At most one picker is open, and only a mounted chord opens one.** After every run of a dashboard, whatever its
chords, the two pickers are not both open, and on a page for one commit the new picker is closed. A picker opens only
while none is open, by a keystroke that plays a chord mounted for its side. Once the chords have been unmounted and no
picker is open, no picker opens any more. -/
theorem opened_run_start {config : Config} {kind : Kind} {query : String} {a : App}
    (h : start config kind query = .ok a) (es : List Event) :
    let b := a.run es
    ¬ (b.oldPicker.isOpen = true ∧ b.newPicker.isOpen = true) ∧
    (kind = .foreignKeys → b.newPicker.isOpen = false) ∧
    (∀ e side, (b.picker side).isOpen = false → ((b.step e).picker side).isOpen = true →
      b.openSide? = none ∧ ∃ k chord, e = .key k ∧ (side, chord) ∈ b.bindings.mounted ∧ chord.Plays k) ∧
    (.unmount ∈ es → b.openSide? = none → ∀ es', (b.run es').openSide? = none) := by
  intro b
  have horderly : b.Orderly := orderly_run (orderly_start h) es
  have hkind : b.kind = kind := (kind_run a es).trans (kind_start h)
  refine ⟨?_, ?_, ?_, ?_⟩
  · rintro ⟨hold, hnew⟩
    cases horderly.single .old .new hold hnew
  · rintro rfl
    by_contra hopen
    have hside := horderly.shown .new (Bool.not_eq_false _ ▸ hopen)
    rw [hkind] at hside
    exact absurd hside (by decide)
  · intro e side hclosed hopen
    rcases (moves_step b e).opens hopen with hwas | ⟨hnone, k, he, hroute⟩
    · exact absurd hwas (Bool.eq_false_iff.1 hclosed)
    · obtain ⟨chord, hmem, hplays⟩ := Bindings.exists_of_route hroute
      exact ⟨hnone, k, chord, he, hmem, hplays⟩
  · intro hunmount hnone
    exact openSide?_run_of_unmounted (mounted_run_of_unmount hunmount) hnone

/-- A dashboard for two commits that has the same chord for both pickers. -/
def oneChord : App :=
  (({ config := { newShortcut := "o" }, page := .mount .macrobench (.ofQuery ({} : Config).pageUrl ""),
      oldChord := { key := 'o' }, newChord := { key := 'o' } } : App).loadCatalog 1).syncPickers.mountShortcuts

/-- The chord opens the old picker alone, and after the end of the dashboard it opens none. -/
theorem opened_run_oneChord :
    let es : List Event := [.key (.plain 'o'), .key { key := .esc }, .unmount]
    start { newShortcut := "o" } .macrobench "" = .ok oneChord ∧
      (oneChord.picker .old).isOpen = false ∧ ((oneChord.step (.key (.plain 'o'))).picker .old).isOpen = true ∧
      (∃ chord, (Side.old, chord) ∈ oneChord.bindings.mounted ∧ chord.Plays (.plain 'o')) ∧
      .unmount ∈ es ∧ (oneChord.run es).openSide? = none ∧
      ((oneChord.run es).run [.key (.plain 'o')]).openSide? = none := by
  intro es
  have hstart : start { newShortcut := "o" } .macrobench "" = .ok oneChord := rfl
  have hclosed : (oneChord.picker .old).isOpen = false := by decide +kernel
  have hopen : ((oneChord.step (.key (.plain 'o'))).picker .old).isOpen = true := by decide +kernel
  have hunmount : Event.unmount ∈ es := List.mem_of_mem_getLast? rfl
  have hnone : (oneChord.run es).openSide? = none := by decide +kernel
  obtain ⟨-, -, hopens, -⟩ := opened_run_start hstart []
  obtain ⟨-, k, chord, hk, hmem, hplays⟩ := hopens (.key (.plain 'o')) .old hclosed hopen
  obtain rfl := Event.key.inj hk
  obtain ⟨-, -, -, hstays⟩ := opened_run_start hstart es
  exact ⟨hstart, hclosed, hopen, ⟨chord, hmem, hplays⟩, hunmount, hnone, hstays hunmount hnone _⟩

end App

end BenchCompare
