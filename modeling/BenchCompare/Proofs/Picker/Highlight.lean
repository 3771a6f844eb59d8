import BenchCompare.Proofs.Picker.Run

/-!
# Highlights

A highlight is a place in the list of the entries that match what has been typed.

* `Picker.InList p c`: the highlight of `p` is a place in its list for the catalog `c`. `Edits.inList`: the keys other
  than Enter keep it there, as long as the catalog stays the same.
* `InList.enterPick`, `enterPick_of_length_le`: what Enter chooses on a highlight in the list and beyond its end.
-/

namespace BenchCompare.Picker

theorem below_lt {n i : Nat} {highlight : Option Nat} (h : below n highlight = some i) : i < n := by
  unfold below at h
  split at h <;> split at h
  · cases h
  · next hn =>
    obtain rfl := Option.some.inj h
    exact Nat.pos_of_ne_zero hn
  · cases h
  · next hn =>
    obtain rfl := Option.some.inj h
    exact Nat.mod_lt _ (Nat.pos_of_ne_zero hn)

theorem above_lt {n i : Nat} {highlight : Option Nat} (h : above n highlight = some i) : i < n := by
  unfold above at h
  split at h <;> split at h
  · cases h
  · next hn =>
    obtain rfl := Option.some.inj h
    exact Nat.sub_lt (Nat.pos_of_ne_zero hn) Nat.one_pos
  · cases h
  · next hn =>
    obtain rfl := Option.some.inj h
    exact Nat.mod_lt _ (Nat.pos_of_ne_zero hn)

/-- The highlight, if there is one, is a place in the list. -/
def InList (p : Picker) (c : Option Catalog) : Prop := ∀ i, p.highlight = some i → i < (p.listed c).length

section InList

variable {p q : Picker} {c : Option Catalog} {i : Nat}

theorem inList_of_highlight_eq_none (h : p.highlight = none) : p.InList c := by
  intro i hi
  rw [h] at hi
  cases hi

theorem highlight_activate (h : p.isOpen = false) : p.activate.highlight = none := by
  rw [activate_of_closed h]

/-- Typing takes the highlight away, and the arrows move it inside the list. -/
theorem Edits.inList (he : Edits c p q) (h : p.InList c) : q.InList c := by
  cases he with
  | dismiss => exact inList_of_highlight_eq_none rfl
  | type text =>
    unfold setInput
    split
    · exact inList_of_highlight_eq_none rfl
    · exact h
  | down => exact fun i hi => below_lt hi
  | up => exact fun i hi => above_lt hi

theorem InList.enterPick (h : p.InList c) (hi : p.highlight = some i) :
    ∃ catalog e, c = some catalog ∧ (catalog.listed p.input)[i]? = some e ∧ p.enterPick c = .entry e.ref := by
  have hlt := h i hi
  cases c with
  | none => exact absurd hlt (Nat.not_lt_zero i)
  | some catalog =>
    have hentry : (p.listed (some catalog))[i]? = some (p.listed (some catalog))[i] := List.getElem?_eq_getElem hlt
    have hhighlighted : p.highlighted? (some catalog) = some (p.listed (some catalog))[i] := by
      rw [highlighted?, hi, Option.bind_some, hentry]
    exact ⟨catalog, _, rfl, hentry, by rw [Picker.enterPick, hhighlighted]⟩

/-- Beyond the end of the list nothing is highlighted, and Enter chooses the text in the box. -/
theorem enterPick_of_length_le (hi : p.highlight = some i) (hle : (p.listed c).length ≤ i) :
    p.enterPick c = .text p.input := by
  have hnone : p.highlighted? c = none := by
    rw [highlighted?, hi, Option.bind_some]
    exact List.getElem?_eq_none hle
  rw [enterPick, hnone]

end InList

end BenchCompare.Picker
