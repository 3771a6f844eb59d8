import BenchCompare.Proofs.App.Run
import Mathlib.Data.List.Induction

/-!
# Pickers and inputs

The ref of a side is held twice, by the page and by the picker of the side.

* `App.Chooses a side r e`: the event `e` chooses the entry `r` of the catalog through the picker of the side, and
  `App.HasChosen a es side r`: one of the events `es` has done so.
* `App.Agrees a chosen`: every picker has the ref of the page as its value, and its label is up to date.
  `Agrees.moves` is the step, `agrees_start` the start and `agrees_run` the whole run.

Main statement: `picker_run_start`.
-/

namespace BenchCompare.App

/-! ### Choices -/

/-- The event is an Enter that chooses the highlighted entry `r` of the catalog in the picker of the side. -/
def Chooses (a : App) (side : Side) (r : Ref) (e : Event) : Prop :=
  ∃ k catalog entry, e = .key k ∧ k.key = .enter ∧ a.openSide? = some side ∧ a.catalog = some catalog ∧
    entry ∈ catalog.entries ∧ (a.picker side).highlighted? a.catalog = some entry ∧ entry.ref = r

/-- One of the events chooses the entry in the picker of the side. -/
def HasChosen (a : App) (es : List Event) (side : Side) (r : Ref) : Prop :=
  ∃ before e after, es = before ++ e :: after ∧ (a.run before).Chooses side r e

theorem HasChosen.concat {a : App} {es : List Event} {side : Side} {r : Ref} (h : a.HasChosen es side r) (e : Event) :
    a.HasChosen (es ++ [e]) side r := by
  obtain ⟨before, e', after, rfl, hc⟩ := h
  exact ⟨before, e', after ++ [e], by simp, hc⟩

theorem Chooses.hasChosen {a : App} {es : List Event} {side : Side} {r : Ref} {e : Event}
    (h : (a.run es).Chooses side r e) : a.HasChosen (es ++ [e]) side r := ⟨es, e, [], rfl, h⟩

/-! ### Agreement -/

/-- Every picker has the ref of the page as its value. Its label is empty, the text of the value, or the name of one
of the chosen entries that has the value as its hash. -/
structure Agrees (a : App) (chosen : Side → Ref → Prop) : Prop where
  value : ∀ side, (a.picker side).value = a.params.ref side
  labelled : ∀ side, (a.picker side).Labelled (chosen side)

section Agrees

variable {a : App} {chosen chosen' : Side → Ref → Prop}

theorem Agrees.mono (h : Agrees a chosen) (hc : ∀ side r, chosen side r → chosen' side r) : Agrees a chosen' :=
  ⟨h.value, fun side => (h.labelled side).mono (hc side)⟩

theorem Agrees.of_eq (h : Agrees a chosen) {a' : App} (hparams : a'.params = a.params)
    (hpicker : ∀ side, a'.picker side = a.picker side) : Agrees a' chosen := by
  refine ⟨fun side => ?_, fun side => ?_⟩
  · rw [hpicker, hparams, h.value]
  · rw [hpicker]
    exact h.labelled side

theorem Agrees.setPicker (h : Agrees a chosen) {side : Side} {p : Picker}
    (hp : Picker.SameChoice (a.picker side) p) : Agrees (a.setPicker side p) chosen := by
  refine ⟨fun side' => ?_, fun side' => ?_⟩
  · rw [picker_setPicker, params_setPicker]
    split
    · next he => rw [hp.value_eq, he, h.value]
    · exact h.value side'
  · rw [picker_setPicker]
    split
    · next he =>
      subst he
      exact (h.labelled _).of_sameChoice hp
    · exact h.labelled side'

theorem Agrees.change (h : ∀ side, (a.picker side).Labelled (chosen side)) (c : Change) :
    Agrees (a.change c) chosen := by
  refine ⟨fun side => ?_, fun side => ?_⟩
  · rw [picker_change, Picker.value_adopt, params_change]
  · rw [picker_change]
    exact (h side).adopt _

/-- Pickers without labels take over what is on the page. -/
theorem Agrees.of_label_eq_empty (h : ∀ side, (a.picker side).label = "") : Agrees a.syncPickers chosen := by
  refine ⟨fun side => ?_, fun side => ?_⟩
  · rw [picker_syncPickers, Picker.value_adopt, params_syncPickers]
  · rw [picker_syncPickers]
    exact Picker.Labelled.adopt (.inl (h side)) _

/-- What is chosen in a picker reaches the page, and comes back to both pickers. -/
theorem Agrees.choose (h : Agrees a chosen) {side : Side} {p : Picker} {value : String}
    (hp : (a.picker side).Confirms a.catalog p value) :
    Agrees ((a.setPicker side p).change (.ref side value)) fun side' r =>
      chosen side' r ∨ side' = side ∧ ∃ e, (a.picker side).highlighted? a.catalog = some e ∧ e.ref = r := by
  refine Agrees.change (fun side' => ?_) _
  rw [picker_setPicker]
  split
  · next he => exact hp.labelled.mono fun r hr => .inr ⟨he, hr⟩
  · exact (h.labelled side').mono fun r hr => .inl hr

/-- **Every event keeps the pickers in agreement with the page.** -/
theorem Agrees.moves {a' : App} {e : Event} (h : Agrees a chosen) (hm : Moves a e a') :
    Agrees a' fun side r => chosen side r ∨ a.Chooses side r e := by
  have hkeep : Agrees a fun side r => chosen side r ∨ a.Chooses side r e := h.mono fun _ _ => .inl
  cases hm with
  | edit ho hp => exact hkeep.setPicker hp.sameChoice
  | @choose k side p value hk ho hp =>
    refine (h.choose hp).mono fun side' r hr => hr.imp_right ?_
    rintro ⟨rfl, entry, hentry, hr⟩
    obtain ⟨catalog, hcatalog, hmem⟩ := Picker.mem_entries_of_highlighted? hentry
    exact ⟨k, catalog, entry, rfl, hk, ho, hcatalog, hmem, hentry, hr⟩
  | activate => exact hkeep.setPicker (Picker.sameChoice_activate _)
  | cycle | change => exact Agrees.change hkeep.labelled _
  | view | reloadCatalog | unmount => exact hkeep.of_eq rfl fun side => by cases side <;> rfl
  | reload => exact hkeep.of_eq (params_reload a) fun side => by cases side <;> rfl
  | receive => exact hkeep.of_eq (params_receive a _ _) (picker_receive a _ _)

theorem agrees_run (h : Agrees a fun _ _ => False) (es : List Event) : Agrees (a.run es) (a.HasChosen es) := by
  -- an entry counts as chosen once its Enter has come, so the induction takes events off the end
  induction es using List.reverseRecOn with
  | nil => exact h.mono fun _ _ => False.elim
  | append_singleton es e ih =>
    rw [run_concat]
    refine (ih.moves (moves_step _ e)).mono fun side r hr => ?_
    rcases hr with hr | hr
    · exact hr.concat e
    · exact hr.hasChosen

end Agrees

theorem agrees_start {config : Config} {kind : Kind} {query : String} {a : App}
    (h : start config kind query = .ok a) : Agrees a fun _ _ => False := by
  obtain ⟨oldChord, newChord, rfl⟩ := exists_of_start h
  refine (Agrees.of_label_eq_empty fun side => ?_).of_eq (params_mountShortcuts _) (picker_mountShortcuts _)
  cases side <;> rfl

/-! ### The main statement -/

/-- **The pickers agree with the page, and no label is out of date.** After every run of a dashboard, each picker has
the ref of its side as its value. Its label is empty, or the text of the value apart from blank space at the ends, or
the name of a catalog entry that an earlier Enter chose in that picker and whose hash is the value. -/
theorem picker_run_start {config : Config} {kind : Kind} {query : String} {a : App}
    (h : start config kind query = .ok a) (es : List Event) :
    ∀ side, let p := (a.run es).picker side
      p.value = (a.run es).params.ref side ∧
      (p.label = "" ∨ Text.trim p.label = p.value ∨
        ∃ r, a.HasChosen es side r ∧ r.name = p.label ∧ r.hash = p.value) := by
  intro side
  have hagrees := agrees_run (agrees_start h) es
  exact ⟨hagrees.value side, hagrees.labelled side⟩

/-! ### A branch from the list

The catalog arrives, and the user opens the old picker and chooses the branch below the search box. -/

def blank : App :=
  (({ config := {}, page := .mount .foreignKeys (.ofQuery ({} : Config).pageUrl ""), oldChord := { key := 'o' },
      newChord := { key := 'j' } } : App).loadCatalog 1).syncPickers.mountShortcuts

def picksBranch : List Event :=
  [.outcome "" (.catalog 1 (.ok { branches := [⟨"main", "deadbeef"⟩] })), .key (.plain 'o'), .key { key := .down },
    .key { key := .enter }]

theorem picker_run_picksBranch :
    start {} .foreignKeys "" = .ok blank ∧
      let p := (blank.run picksBranch).picker .old
      p.label = "main" ∧ p.value = (blank.run picksBranch).params.oldRef ∧
        ∃ r, blank.HasChosen picksBranch .old r ∧ r.name = "main" ∧ r.hash = p.value := by
  have hstart : start {} .foreignKeys "" = .ok blank := rfl
  have hlabel : ((blank.run picksBranch).picker .old).label = "main" := by decide +kernel
  have hvalue : ((blank.run picksBranch).picker .old).value = "deadbeef" := by decide +kernel
  obtain ⟨hagrees, hnamed⟩ := picker_run_start hstart picksBranch .old
  refine ⟨hstart, hlabel, hagrees, ?_⟩
  -- the label is neither empty nor the text of the value
  rcases hnamed with hempty | htext | ⟨r, hr, hname, hhash⟩
  · exact absurd (hlabel.symm.trans hempty) (by decide)
  · rw [hlabel, hvalue] at htext
    exact absurd htext (by decide +kernel)
  · exact ⟨r, hr, hname.trans hlabel, hhash⟩

end BenchCompare.App
