import BenchCompare.Proofs.App.Selection
import BenchCompare.Proofs.Picker.Typing

/-!
# Typing in the open picker

* `press_of_ne_enter`: while a picker is open, a key other than Enter is for that picker and nothing else.
* `run_keys`: so are any number of keys other than Enter and Esc, which leave the picker open.
* `App.SameButBox side a b`: the dashboards are the same, but for the box of the picker of a side.

Main statement: `press_frame`.
-/

namespace BenchCompare.App

/-! ### One picker in the place of another -/

section SetPicker

variable (a : App) (side : Side)

theorem setPicker_picker : a.setPicker side (a.picker side) = a := by cases side <;> rfl

theorem setPicker_setPicker (p q : Picker) : (a.setPicker side p).setPicker side q = a.setPicker side q := by
  cases side <;> rfl

@[simp] theorem catalog_setPicker (p : Picker) : (a.setPicker side p).catalog = a.catalog := by cases side <;> rfl

theorem openSide?_setPicker {a : App} {side : Side} (h : a.openSide? = some side) {p : Picker} (hp : p.isOpen = true) :
    (a.setPicker side p).openSide? = some side := by
  cases side with
  | old => exact if_pos hp
  | new =>
    have hold : a.oldPicker.isOpen = false := by
      by_contra ho
      rw [openSide?, if_pos (Bool.not_eq_false _ ▸ ho)] at h
      cases h
    rw [openSide?]
    exact (if_neg (Bool.eq_false_iff.1 hold)).trans (if_pos hp)

end SetPicker

/-! ### Keys -/

section Keys

variable {a : App} {side : Side}

theorem pressInPicker_of_ne_enter {k : Keystroke} (h : k.key ≠ .enter) :
    a.pressInPicker side k = a.setPicker side ((a.picker side).typed a.catalog k) := by
  have hself := (a.setPicker_picker side).symm
  unfold pressInPicker Picker.typed
  dsimp only
  cases hk : k.key with
  | enter => exact absurd hk h
  | char c =>
    dsimp only
    split
    · split
      · rfl
      · exact hself
    · split
      · exact hself
      · rfl
  | esc | up | down | tab | backspace => rfl
  | _ => exact hself

/-- **While a picker is open, a key other than Enter is for that picker and nothing else.** -/
theorem press_of_ne_enter (ho : a.openSide? = some side) {k : Keystroke} (h : k.key ≠ .enter) :
    a.press k = a.setPicker side ((a.picker side).typed a.catalog k) := by
  rw [press, ho]
  exact pressInPicker_of_ne_enter h

/-- Keys other than Enter and Esc leave the picker open for the next one. -/
theorem run_keys (ho : a.openSide? = some side) {ks : List Keystroke}
    (h : ∀ k ∈ ks, k.key ≠ .enter ∧ k.key ≠ .esc) :
    a.run (ks.map .key) = a.setPicker side (ks.foldl (Picker.typed a.catalog) (a.picker side)) := by
  induction ks generalizing a with
  | nil => exact (a.setPicker_picker side).symm
  | cons k ks ih =>
    obtain ⟨hk, hks⟩ := List.forall_mem_cons.1 h
    obtain ⟨input, highlight, htyped⟩ := Picker.exists_typed_of_ne_esc a.catalog hk.2 (a.picker side)
    have hpress := press_of_ne_enter ho hk.1
    have hopen : (a.press k).openSide? = some side := by
      rw [hpress, htyped]
      exact openSide?_setPicker ho (isOpen_of_openSide? ho)
    have hpicker : (a.press k).picker side = (a.picker side).typed a.catalog k := by
      rw [hpress, picker_setPicker, if_pos rfl]
    have hcatalog : (a.press k).catalog = a.catalog := by rw [hpress, catalog_setPicker]
    calc a.run ((k :: ks).map .key) = (a.press k).run (ks.map .key) := rfl
      _ = (a.press k).setPicker side (ks.foldl (Picker.typed a.catalog) ((a.picker side).typed a.catalog k)) := by
        rw [ih hopen hks, hpicker, hcatalog]
      _ = a.setPicker side ((k :: ks).foldl (Picker.typed a.catalog) (a.picker side)) := by
        rw [hpress, setPicker_setPicker, List.foldl_cons]

/-- Esc closes the picker and leaves the text in its box. -/
theorem run_keys_esc (ho : a.openSide? = some side) {ks : List Keystroke}
    (h : ∀ k ∈ ks, k.key ≠ .enter ∧ k.key ≠ .esc) {esc : Keystroke} (hesc : esc.key = .esc) :
    ∃ input, a.run ((ks ++ [esc]).map .key) =
      a.setPicker side { a.picker side with isOpen := false, input, highlight := none } := by
  obtain ⟨input, highlight, htyped⟩ := Picker.exists_foldl_typed a.catalog (fun k hk => (h k hk).2) (a.picker side)
  have hopen : (a.setPicker side { a.picker side with input, highlight }).openSide? = some side :=
    openSide?_setPicker ho (isOpen_of_openSide? ho)
  have hne : esc.key ≠ .enter := by
    rw [hesc]
    exact Key.noConfusion
  refine ⟨input, ?_⟩
  rw [List.map_append, run_append, run_keys ho h, htyped]
  calc (a.setPicker side { a.picker side with input, highlight }).press esc
      = (a.setPicker side { a.picker side with input, highlight }).setPicker side
          ({ a.picker side with input, highlight } : Picker).dismiss := by
        rw [press_of_ne_enter hopen hne, picker_setPicker, if_pos rfl, Picker.typed_esc _ hesc]
    _ = a.setPicker side { a.picker side with isOpen := false, input, highlight := none } := setPicker_setPicker ..

end Keys

/-! ### The main statement -/

/-- The dashboards are the same but for the picker of a side. Of that picker only the text in the box, the highlight and
whether it is open may differ. -/
structure SameButBox (side : Side) (a b : App) : Prop where
  dashboard : b = { a with oldPicker := b.oldPicker, newPicker := b.newPicker }
  other : ∀ side', side' ≠ side → b.picker side' = a.picker side'
  box : ∃ isOpen input highlight, b.picker side = { a.picker side with isOpen, input, highlight }

section SameButBox

variable {side : Side} {a b : App}

theorem sameButBox_setPicker (isOpen : Bool) (input : String) (highlight : Option Nat) :
    SameButBox side a (a.setPicker side { a.picker side with isOpen, input, highlight }) := by
  refine ⟨by cases side <;> rfl, fun side' hne => ?_, isOpen, input, highlight, ?_⟩
  · rw [picker_setPicker, if_neg hne]
  · rw [picker_setPicker, if_pos rfl]

theorem SameButBox.params_eq (h : SameButBox side a b) : b.params = a.params := by
  rw [h.dashboard]
  rfl

theorem SameButBox.fetchesSince_eq (h : SameButBox side a b) : b.fetchesSince a = [] := by
  have hself : a.fetchesSince a = [] := by simp [fetchesSince, fetchesAfter]
  rw [h.dashboard]
  exact hself

end SameButBox

/-- **Typing in a picker touches nothing else.** Let the picker of a side be open. A key other than Enter changes nothing
but the text in its box, its highlight and whether it is open. So do any number of such keys up to the first Esc, which
closes the picker: inputs and choices are as before, and nothing has been asked for. -/
theorem press_frame {a : App} {side : Side} (ho : a.openSide? = some side) :
    (∀ k, k.key ≠ .enter → SameButBox side a (a.press k)) ∧
    ∀ ks esc, (∀ k ∈ ks, k.key ≠ .enter ∧ k.key ≠ .esc) → esc.key = .esc →
      let b := a.run ((ks ++ [esc]).map .key)
      SameButBox side a b ∧ (b.picker side).isOpen = false ∧ b.params = a.params ∧ b.fetchesSince a = [] := by
  refine ⟨?_, ?_⟩
  · intro k hk
    obtain ⟨isOpen, input, highlight, htyped⟩ := Picker.exists_typed a.catalog (a.picker side) k
    rw [press_of_ne_enter ho hk, htyped]
    exact sameButBox_setPicker isOpen input highlight
  · intro ks esc hks hesc b
    obtain ⟨input, hrun⟩ := run_keys_esc ho hks hesc
    have hb : b = a.setPicker side { a.picker side with isOpen := false, input, highlight := none } := hrun
    have hsame : SameButBox side a b := by
      rw [hb]
      exact sameButBox_setPicker false input none
    have hclosed : (b.picker side).isOpen = false := by
      rw [hb, picker_setPicker, if_pos rfl]
    exact ⟨hsame, hclosed, hsame.params_eq, hsame.fetchesSince_eq⟩

/-- With the old picker open, keys that otherwise ask again, quit or change a workload only stand for their characters. -/
theorem press_frame_blank :
    let a := blank.press (.plain 'o')
    let ks : List Keystroke := [.plain 'r', .plain 'R', .plain 'q', .plain 'w', { key := .down }]
    let esc : Keystroke := { key := .esc }
    let b := a.run ((ks ++ [esc]).map .key)
    a.openSide? = some .old ∧ (∀ k ∈ ks, k.key ≠ .enter ∧ k.key ≠ .esc) ∧ SameButBox .old a (a.press (.plain 'w')) ∧
      (b.picker .old).input = "rRqw" ∧ (b.picker .old).isOpen = false ∧ b.params = a.params ∧ b.fetchesSince a = [] := by
  intro a ks esc b
  have ho : a.openSide? = some .old := by decide +kernel
  have hks : ∀ k ∈ ks, k.key ≠ .enter ∧ k.key ≠ .esc := by decide
  have hinput : (b.picker .old).input = "rRqw" := by decide +kernel
  obtain ⟨hpress, hrun⟩ := press_frame ho
  obtain ⟨-, hclosed, hparams, hfetches⟩ := hrun ks esc hks rfl
  exact ⟨ho, hks, hpress (.plain 'w') (by decide), hinput, hclosed, hparams, hfetches⟩

end BenchCompare.App
