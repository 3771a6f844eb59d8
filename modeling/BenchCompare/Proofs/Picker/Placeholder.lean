import BenchCompare.Proofs.Picker.Run

/-!
# When a picker shows its placeholder

The label of a picker is the text of the choice that it holds, as it was typed, while its value is that text without
blank space at its ends.

* `Picker.heldAfter`, `Picker.heldOver`: the choice that a picker holds after an event and after a list of them. It is
  the last one made, until another ref comes from outside.
* `Picker.Shows p held`: label and value of the picker are those of the choice. `Shows.run`: it is so all along a run.
* `Event.Offers e r`: the event may choose the ref `r`.
* `display_eq_iff`: the placeholder is for a picker without a value and without a label.

Main statement: `display_run`.
-/

namespace BenchCompare.Picker

/-! ### The choice that is held -/

/-- What a picker still holds after an event that chooses nothing. -/
def keptAfter (p : Picker) (held : Option Pick) : Event → Option Pick
  | .adopt value => if value = p.value then held else none
  | _ => held

/-- The choice that a picker holds after an event. -/
def heldAfter (p : Picker) (held : Option Pick) (e : Event) : Option Pick := (p.pick? e).or (p.keptAfter held e)

/-- The choice that a picker holds after a list of events. -/
def heldOver (p : Picker) (held : Option Pick) : List Event → Option Pick
  | [] => held
  | e :: es => (p.step e).heldOver (p.heldAfter held e) es

/-- The label is the text of the choice, and the value is its ref. -/
structure Shows (p : Picker) (held : Option Pick) : Prop where
  label : p.label = held.elim "" Pick.input
  value : ∀ pick, held = some pick → p.value = pick.value

theorem Shows.of_sameChoice {p q : Picker} {held : Option Pick} (h : p.Shows held) (hs : SameChoice p q) :
    q.Shows held where
  label := hs.label_eq.trans h.label
  value pick hpick := hs.value_eq.trans (h.value pick hpick)

/-- Without a choice and without a ref from outside, label and value stay. -/
theorem sameChoice_of_pick?_eq_none {p : Picker} {e : Event} (h : p.pick? e = none) (he : ∀ value, e ≠ .adopt value) :
    SameChoice p (p.step e) := by
  cases e with
  | activate => exact sameChoice_activate p
  | adopt value => exact absurd rfl (he value)
  | dismiss => exact (Edits.dismiss : Edits none p _).sameChoice
  | setInput | push | pop => exact (Edits.type _ : Edits none p _).sameChoice
  | moveDown c => exact (Edits.down : Edits c p _).sameChoice
  | moveUp c => exact (Edits.up : Edits c p _).sameChoice
  | select | confirmTyped | confirm =>
    have hclosed : p.isOpen = false := by simpa [pick?] using h
    rw [step_of_closed hclosed]
    · exact ⟨rfl, rfl⟩
    · trivial

theorem Shows.step {p : Picker} {held : Option Pick} (h : p.Shows held) (e : Event) :
    (p.step e).Shows (p.heldAfter held e) := by
  unfold heldAfter
  cases hpick : p.pick? e with
  | some pick =>
    rw [step_of_pick? hpick]
    exact ⟨rfl, fun pick' heq => congrArg Pick.value (Option.some.inj heq)⟩
  | none =>
    rw [Option.none_or]
    cases e with
    | adopt value =>
      show (p.adopt value).Shows (if value = p.value then held else none)
      split
      · next heq => rwa [adopt_self heq]
      · next hne =>
        rw [adopt, if_neg hne]
        exact ⟨rfl, fun _ hnone => by cases hnone⟩
    | _ => exact h.of_sameChoice (sameChoice_of_pick?_eq_none hpick (by simp))

theorem Shows.run {p : Picker} {held : Option Pick} (h : p.Shows held) (es : List Event) :
    (p.run es).Shows (p.heldOver held es) := by
  induction es generalizing p held with
  | nil => exact h
  | cons e es ih => exact ih (h.step e)

/-! ### Entries on offer -/

/-- The event may choose the ref, by itself or from a catalog. -/
def Event.Offers : Event → Ref → Prop
  | .select r, r' => r = r'
  | .confirm (some c), r' => ∃ e ∈ c.entries, e.ref = r'
  | _, _ => False

theorem offers_of_pick? {p : Picker} {e : Event} {r : Ref} (h : p.pick? e = some (.entry r)) : e.Offers r := by
  cases e with
  | select r' =>
    obtain ⟨-, hpick⟩ := Option.ite_none_right_eq_some.1 h
    exact Pick.entry.inj (Option.some.inj hpick)
  | confirmTyped =>
    obtain ⟨-, hpick⟩ := Option.ite_none_right_eq_some.1 h
    cases hpick
  | confirm c =>
    obtain ⟨-, hpick⟩ := Option.ite_none_right_eq_some.1 h
    have henter : p.enterPick c = .entry r := Option.some.inj hpick
    unfold enterPick at henter
    split at henter
    · next entry hentry =>
      obtain ⟨catalog, rfl, hmem⟩ := mem_entries_of_highlighted? hentry
      exact ⟨entry, hmem, Pick.entry.inj henter⟩
    · cases henter
  | _ => cases h

theorem eq_of_keptAfter {p : Picker} {held : Option Pick} {e : Event} {pick : Pick}
    (h : p.keptAfter held e = some pick) : held = some pick := by
  cases e with
  | adopt value => exact (Option.ite_none_right_eq_some.1 h).2
  | _ => exact h

theorem heldAfter_eq_some {p : Picker} {held : Option Pick} {e : Event} {pick : Pick}
    (h : p.heldAfter held e = some pick) : p.pick? e = some pick ∨ held = some pick := by
  rcases Option.or_eq_some_iff.1 h with hpick | ⟨-, hkept⟩
  · exact .inl hpick
  · exact .inr (eq_of_keptAfter hkept)

theorem exists_offers_of_heldOver {p : Picker} {held : Option Pick} {es : List Event} {r : Ref}
    (h : p.heldOver held es = some (.entry r)) : held = some (.entry r) ∨ ∃ e ∈ es, e.Offers r := by
  induction es generalizing p held with
  | nil => exact .inl h
  | cons e es ih =>
    rcases ih h with hheld | ⟨e', he', hoffers⟩
    · rcases heldAfter_eq_some hheld with hpick | hheld
      · exact .inr ⟨e, List.mem_cons_self, offers_of_pick? hpick⟩
      · exact .inl hheld
    · exact .inr ⟨e', List.mem_cons_of_mem e he', hoffers⟩

/-! ### The main statement -/

theorem display_of_label {p : Picker} (h : p.label ≠ "") (c : Option Catalog) (placeholder : String) :
    p.display c placeholder = p.label := if_pos h

theorem display_of_value {p : Picker} (hlabel : p.label = "") (hvalue : p.value ≠ "") (c : Option Catalog)
    (placeholder placeholder' : String) : p.display c placeholder = p.display c placeholder' := by
  simp [display, hlabel, hvalue]

theorem display_eq_iff (p : Picker) (c : Option Catalog) :
    (∀ placeholder, p.display c placeholder = placeholder) ↔ p.value = "" ∧ p.label = "" := by
  constructor
  · intro hall
    -- the same text cannot be shown for two placeholders
    have hdiffer : p.display c "" ≠ p.display c "-" := by
      rw [hall, hall]
      decide
    have hlabel : p.label = "" := by
      by_contra hne
      exact hdiffer ((display_of_label hne c "").trans (display_of_label hne c "-").symm)
    refine ⟨?_, hlabel⟩
    by_contra hne
    exact hdiffer (display_of_value hlabel hne c "" "-")
  · rintro ⟨hvalue, hlabel⟩ placeholder
    simp [display, hlabel, hvalue]

/-- **A picker without a value shows its placeholder unless the choice that it holds is blank text.** Let a new picker go
through any events that offer no entry without a hash. If the picker has no value, its label is blank. The label is not
empty exactly if the choice that is held is a text of blank space, typed and confirmed. So the placeholder is shown
exactly if the picker has no value and does not hold such a text. -/
theorem display_run (side : Side) (es : List Event) (hes : ∀ e ∈ es, ∀ r, e.Offers r → r.hash ≠ "")
    (c : Option Catalog) :
    let p := run { side } es
    let heldBlank := ∃ text, heldOver { side } none es = some (.text text) ∧ Text.trim text = "" ∧ text ≠ ""
    (p.value = "" → Text.trim p.label = "") ∧ (p.value = "" ∧ p.label ≠ "" ↔ heldBlank) ∧
      ((∀ placeholder, p.display c placeholder = placeholder) ↔ p.value = "" ∧ ¬ heldBlank) := by
  intro p heldBlank
  have hshows : p.Shows (heldOver { side } none es) := Shows.run ⟨rfl, fun _ hnone => by cases hnone⟩ es
  have htext (text : String) (hheld : heldOver { side } none es = some (.text text)) :
      p.label = text ∧ p.value = Text.trim text :=
    ⟨by rw [hshows.label, hheld]; rfl, hshows.value _ hheld⟩
  have hcases : p.value = "" → p.label = "" ∨ heldOver { side } none es = some (.text p.label) := by
    intro hvalue
    cases hheld : heldOver { side } none es with
    | none => exact .inl (by rw [hshows.label, hheld]; rfl)
    | some pick =>
      cases pick with
      | text text => exact .inr (by rw [(htext text hheld).1])
      | entry r =>
        rcases exists_offers_of_heldOver hheld with hnone | ⟨e, he, hoffers⟩
        · cases hnone
        · exact absurd ((hshows.value _ hheld).symm.trans hvalue) (hes e he r hoffers)
  have hblank : p.value = "" ∧ p.label ≠ "" ↔ heldBlank := by
    constructor
    · rintro ⟨hvalue, hlabel⟩
      have hheld := (hcases hvalue).resolve_left hlabel
      exact ⟨p.label, hheld, (htext _ hheld).2.symm.trans hvalue, hlabel⟩
    · rintro ⟨text, hheld, htrim, hne⟩
      obtain ⟨hlabel, hvalue⟩ := htext text hheld
      exact ⟨hvalue.trans htrim, hlabel.symm ▸ hne⟩
  refine ⟨fun hvalue => ?_, hblank, ?_⟩
  · rcases hcases hvalue with hlabel | hheld
    · rw [hlabel]
      decide
    · exact (htext _ hheld).2.symm.trans hvalue
  · rw [display_eq_iff, ← hblank]
    exact and_congr_right fun hvalue => by rw [and_iff_right hvalue, ne_eq, not_not]

/-- A branch is chosen, and the page takes it back. Blank space that is typed and dismissed does not count. -/
theorem display_run_cleared :
    let es : List Event := [.activate, .select ⟨"main", "deadbeef"⟩, .adopt "", .activate, .setInput "  ", .dismiss]
    (∀ e ∈ es, ∀ r, e.Offers r → r.hash ≠ "") ∧
      (run { side := .old } es).display none "Search..." = "Search..." := by
  intro es
  have hes : ∀ e ∈ es, ∀ r, e.Offers r → r.hash ≠ "" := by simp [es, Event.Offers]
  have hvalue : (run { side := .old } es).value = "" := by decide +kernel
  have hheld : heldOver { side := .old } none es = none := by decide +kernel
  obtain ⟨-, -, hdisplay⟩ := display_run .old es hes none
  refine ⟨hes, hdisplay.2 ⟨hvalue, ?_⟩ "Search..."⟩
  rintro ⟨text, htext, -⟩
  rw [hheld] at htext
  cases htext

/-- Blank space is typed and confirmed. The picker has no value, and shows the blank space. -/
theorem display_run_blank :
    let p := run { side := .old } [.activate, .setInput "  ", .confirmTyped]
    p.value = "" ∧ p.label = "  " ∧ p.display none "Search..." = "  " := by
  decide +kernel

end BenchCompare.Picker
