import BenchCompare.Proofs.App.Loads
import BenchCompare.Proofs.Picker.Highlight

/-!
# Highlights while the catalog changes

A load of the catalog may come back while a picker is open, and it leaves the highlight where it is.

* `App.HighlightsListed a`: in every open picker the highlight is a place in the list.
* `App.Delists a e`: the event `e` is a load that counts, and the list of an open picker ends before its highlight
  afterwards. `HighlightsListed.step_iff`: only such an event takes a highlight out of its list.
* `App.choose a side pick`: the dashboard after a choice. `press_enter` says that Enter makes one.

Main statement: `highlightsListed_run_start`.
-/

namespace BenchCompare

@[simp] theorem Params.ref_apply_workload (p : Params) (side side' : Side) (w : String) :
    (p.apply (.workload side w)).ref side' = p.ref side' := by
  cases side <;> cases side' <;> rfl

theorem Params.ref_apply_ref_of_ne (p : Params) {side side' : Side} (h : side' ≠ side) (value : String) :
    (p.apply (.ref side value)).ref side' = p.ref side' := by
  cases side <;> cases side' <;> first | rfl | exact absurd rfl h

namespace App

/-- In every open picker the highlight is a place in the list. -/
def HighlightsListed (a : App) : Prop := ∀ side, (a.picker side).isOpen = true → (a.picker side).InList a.catalog

/-- The event is a load of the catalog that counts, and with it the list of an open picker ends before the highlight. -/
def Delists (a : App) (e : Event) : Prop :=
  ∃ load side i, a.counts? e = some load ∧ (a.picker side).isOpen = true ∧ (a.picker side).highlight = some i ∧
    ((a.picker side).listed load.result.toOption).length ≤ i

/-! ### Enter -/

def choose (a : App) (side : Side) (pick : Picker.Pick) : App :=
  (a.setPicker side ((a.picker side).picked pick)).change (.ref side pick.value)

theorem press_enter {a : App} {side : Side} {k : Keystroke} (ho : a.openSide? = some side) (hk : k.key = .enter) :
    a.press k = a.choose side ((a.picker side).enterPick a.catalog) := by
  have hconfirm := Picker.confirm_eq_enterPick (isOpen_of_openSide? ho) a.catalog
  simp only [press, ho, pressInPicker, hk, hconfirm]
  rfl

/-! ### Events -/

section Step

variable {a : App}

/-- Each open picker is as it was before, or its highlight is in the list. -/
theorem HighlightsListed.of_picker (h : a.HighlightsListed) {a' : App} (hc : a'.catalog = a.catalog)
    (hp : ∀ side, (a'.picker side).isOpen = true →
      a'.picker side = a.picker side ∨ (a'.picker side).InList a.catalog) : a'.HighlightsListed := by
  intro side ho
  rw [hc]
  rcases hp side ho with heq | hin
  · rw [heq] at ho ⊢
    exact h side ho
  · exact hin

/-- Without a load and without a change from outside, highlights stay in their lists. The pickers have the refs of the
page, so what one of them chooses leaves the other one alone. -/
theorem HighlightsListed.moves (h : a.HighlightsListed) (hv : ∀ side, (a.picker side).value = a.params.ref side)
    {a' : App} {e : Event} (hm : Moves a e a') (hload : e.load? = none) (he : ∀ c, e ≠ .change c) :
    a'.HighlightsListed := by
  refine h.of_picker (hm.catalog_eq hload).1 fun side' ho => ?_
  cases hm with
  | @edit k side p hside hp =>
    rw [picker_setPicker] at ho ⊢
    split
    · exact .inr (hp.inList (h side (isOpen_of_openSide? hside)))
    · exact .inl rfl
  | @choose k side p value hk hside hp =>
    by_cases hs : side' = side
    · -- the picker that has chosen is closed
      subst hs
      rw [picker_change, picker_setPicker, if_pos rfl, Picker.isOpen_adopt, hp.isOpen] at ho
      cases ho
    · have hother : (a.setPicker side p).picker side' = a.picker side' := by rw [picker_setPicker, if_neg hs]
      have hvalue := (Params.ref_apply_ref_of_ne a.params hs value).trans (hv side').symm
      rw [picker_change, params_setPicker, hother, Picker.adopt_self hvalue]
      exact .inl rfl
  | @activate k side hnone =>
    rw [picker_setPicker] at ho ⊢
    split
    · have hclosed := isOpen_of_openSide?_eq_none hnone side
      exact .inr (Picker.inList_of_highlight_eq_none (Picker.highlight_activate hclosed))
    · exact .inl rfl
  | @cycle k side w =>
    have hvalue := (Params.ref_apply_workload a.params side side' w).trans (hv side').symm
    rw [picker_change, Picker.adopt_self hvalue]
    exact .inl rfl
  | @change c => exact absurd rfl (he c)
  | view | reload | reloadCatalog | unmount => exact .inl (by cases side' <;> rfl)
  | receive => exact .inl (picker_receive a _ _ side')

/-- **Only a load that ends a list before its highlight takes the highlight out of the list.** -/
theorem HighlightsListed.step_iff (h : a.HighlightsListed) (hv : ∀ side, (a.picker side).value = a.params.ref side)
    {e : Event} (he : ∀ c, e ≠ .change c) : (a.step e).HighlightsListed ↔ ¬ a.Delists e := by
  cases hcounts : a.counts? e with
  | some load =>
    have hpicker : ∀ side, (a.step e).picker side = a.picker side := by
      intro side
      rw [step_of_counts? hcounts]
      cases side <;> rfl
    have hcatalog : (a.step e).catalog = load.result.toOption := by rw [step_of_counts? hcounts]
    constructor
    · rintro hlisted ⟨load', side, i, hload', ho, hi, hle⟩
      obtain rfl := Option.some.inj (hcounts.symm.trans hload')
      have hlt := hlisted side ((hpicker side).symm ▸ ho) i ((hpicker side).symm ▸ hi)
      rw [hpicker, hcatalog] at hlt
      exact absurd hlt (Nat.not_lt.2 hle)
    · intro hno side ho i hi
      rw [hpicker] at ho hi ⊢
      rw [hcatalog]
      by_contra hlt
      exact hno ⟨load, side, i, hcounts, ho, hi, Nat.not_lt.1 hlt⟩
  | none =>
    have hno : ¬ a.Delists e := by
      rintro ⟨load, -, -, hload, -⟩
      rw [hcounts] at hload
      cases hload
    refine iff_of_true ?_ hno
    cases hload : e.load? with
    | none => exact h.moves hv (moves_step a e) hload he
    | some load => rwa [step_of_counts?_eq_none hcounts hload]

end Step

/-! ### Runs -/

section Runs

variable {config : Config} {kind : Kind} {query : String} {a : App} (h : start config kind query = .ok a)
include h

theorem highlightsListed_start : a.HighlightsListed := by
  intro side ho
  exact absurd ho (Bool.eq_false_iff.1 (isOpen_start h side))

theorem highlightsListed_run_iff {es : List Event} (hes : ∀ e ∈ es, ∀ c, e ≠ .change c) :
    (∀ before, before <+: es → (a.run before).HighlightsListed) ↔
      ∀ before e, before ++ [e] <+: es → ¬ (a.run before).Delists e := by
  have hv : ∀ before side, ((a.run before).picker side).value = (a.run before).params.ref side :=
    fun before => (agrees_run (agrees_start h) before).value
  refine forall_prefix_iff (P := fun before => (a.run before).HighlightsListed) (highlightsListed_start h) ?_
  intro before e hbefore hlisted
  show (a.run (before ++ [e])).HighlightsListed ↔ _
  rw [run_concat]
  exact hlisted.step_iff (hv before) (hes e (hbefore.subset (List.mem_append_right _ (List.mem_singleton_self e))))

end Runs

/-! ### The main statement -/

/-- **A highlight stands for a listed entry until a load of the catalog ends the list before it.** Let a dashboard take
keys and outcomes in any order. In every open picker the highlight is a place in the list all along, exactly if no load
that counts leaves an open picker with a list that ends before its highlight. While the highlight is in the list, there
is a catalog, and Enter chooses the entry at that place. Once the list ends before it, Enter chooses the text in the
box. -/
theorem highlightsListed_run_start {config : Config} {kind : Kind} {query : String} {a : App}
    (h : start config kind query = .ok a) (es : List Event) (hes : ∀ e ∈ es, ∀ c, e ≠ .change c) :
    let b := a.run es
    ((∀ before, before <+: es → (a.run before).HighlightsListed) ↔
      ∀ before e, before ++ [e] <+: es → ¬ (a.run before).Delists e) ∧
    ∀ side i k, b.openSide? = some side → (b.picker side).highlight = some i → k.key = .enter →
      (b.HighlightsListed → ∃ catalog e, b.catalog = some catalog ∧
        (catalog.listed (b.picker side).input)[i]? = some e ∧ b.press k = b.choose side (.entry e.ref)) ∧
      (((b.picker side).listed b.catalog).length ≤ i → b.press k = b.choose side (.text (b.picker side).input)) := by
  intro b
  refine ⟨highlightsListed_run_iff h hes, ?_⟩
  intro side i k ho hi hk
  have hpress := press_enter ho hk
  refine ⟨fun hlisted => ?_, fun hle => ?_⟩
  · obtain ⟨catalog, e, hcatalog, hentry, hpick⟩ := (hlisted side (isOpen_of_openSide? ho)).enterPick hi
    exact ⟨catalog, e, hcatalog, hentry, hpick ▸ hpress⟩
  · rw [hpress, Picker.enterPick_of_length_le hi hle]

/-- The catalog is asked for again and comes back before the user opens the old picker and moves to the first entry. -/
def highlightsBranch : List Event :=
  [.outcome "" (.catalog 1 (.ok { branches := [⟨"main", "deadbeef"⟩] })), .key (.plain 'R'), .key (.plain 'o'),
    .outcome "" (.catalog 2 (.ok { branches := [⟨"main", "cafe"⟩] })), .key { key := .down }]

theorem highlightsListed_run_highlightsBranch :
    start {} .foreignKeys "" = .ok blank ∧ (∀ e ∈ highlightsBranch, ∀ c, e ≠ .change c) ∧
      (blank.run highlightsBranch).press { key := .enter } =
        (blank.run highlightsBranch).choose .old (.entry ⟨"main", "cafe"⟩) := by
  have hstart : start {} .foreignKeys "" = .ok blank := rfl
  have hes : ∀ e ∈ highlightsBranch, ∀ c, e ≠ .change c := by simp [highlightsBranch]
  have ho : (blank.run highlightsBranch).openSide? = some .old := by decide +kernel
  have hi : ((blank.run highlightsBranch).picker .old).highlight = some 0 := by decide +kernel
  have hinput : ((blank.run highlightsBranch).picker .old).input = "" := by decide +kernel
  have hloaded : (blank.run highlightsBranch).catalog = some { branches := [⟨"main", "cafe"⟩] } := by decide +kernel
  have hlisted : (blank.run highlightsBranch).HighlightsListed := by
    intro side hside i hi'
    cases side with
    | old =>
      obtain rfl := Option.some.inj (hi.symm.trans hi')
      decide +kernel
    | new =>
      have hclosed : ((blank.run highlightsBranch).picker .new).isOpen = false := by decide +kernel
      exact absurd hside (Bool.eq_false_iff.1 hclosed)
  obtain ⟨-, henter⟩ := highlightsListed_run_start hstart highlightsBranch hes
  obtain ⟨catalog, e, hcatalog, hentry, hpress⟩ := (henter .old 0 { key := .enter } ho hi rfl).1 hlisted
  obtain rfl := Option.some.inj (hloaded.symm.trans hcatalog)
  rw [hinput] at hentry
  have hfirst : (({ branches := [⟨"main", "cafe"⟩] } : Catalog).listed "")[0]? = some ⟨.branches, ⟨"main", "cafe"⟩⟩ := by
    decide +kernel
  obtain rfl := Option.some.inj (hfirst.symm.trans hentry)
  exact ⟨hstart, hes, hpress⟩

/-- The user finds the only branch and highlights it, while the catalog is asked for again in vain. -/
def losesCatalog : List Event :=
  [.outcome "" (.catalog 1 (.ok { branches := [⟨"main", "deadbeef"⟩] })), .key (.plain 'R'), .key (.plain 'o'),
    .key (.plain 'm'), .key { key := .down }, .outcome "" (.catalog 2 (.error (.transport "")))]

/-- The highlight outlives the catalog, and Enter chooses the text in the box. -/
theorem highlight_run_losesCatalog :
    let b := blank.run losesCatalog
    start {} .foreignKeys "" = .ok blank ∧ b.openSide? = some .old ∧ b.oldPicker.highlight = some 0 ∧
      b.catalog = none ∧ ¬ b.HighlightsListed ∧ (b.press { key := .enter }).params.oldRef = "m" := by
  have ho : (blank.run losesCatalog).oldPicker.isOpen = true := by decide +kernel
  have hi : (blank.run losesCatalog).oldPicker.highlight = some 0 := by decide +kernel
  have hcatalog : (blank.run losesCatalog).catalog = none := by decide +kernel
  refine ⟨rfl, by decide +kernel, hi, hcatalog, fun hlisted => ?_, by decide +kernel⟩
  have hlt := hlisted .old ho 0 hi
  rw [hcatalog] at hlt
  exact absurd hlt (Nat.not_lt_zero 0)

end App

end BenchCompare
