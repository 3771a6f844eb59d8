import BenchCompare.Picker

/-!
# What a picker holds

A picker holds a value, which is the ref that counts, and a label, which is how the choice was made.

* `Picker.Pick`: what can be chosen, an entry of the catalog or the text in the box. `Picker.picked`: the picker after a
  choice. `confirm_eq_enterPick`: Enter in an open picker always chooses something.
* `Picker.Edits c p q`: a key other than Enter turns the open picker `p` into `q`. Value and label stay
  (`Edits.sameChoice`).
* `Picker.Confirms c p q value`: Enter turns the open picker `p` into `q` and chooses `value` (`confirm_of_isOpen`).
* `Picker.Labelled p chosen`: the label of `p` is empty, the text of its value, or the name of one of the refs in
  `chosen` with that value.
-/

namespace BenchCompare

/-! ### Listed entries -/

theorem Catalog.mem_of_mem_ranked {text : String} {refs : List Ref} {r : Ref} (h : r ∈ ranked text refs) :
    r ∈ refs := by
  obtain ⟨⟨score, r⟩, hscored, rfl⟩ := List.mem_map.1 h
  have hfiltered := (List.mem_filter.1 (List.mem_mergeSort.1 hscored)).1
  obtain ⟨r', hr', he⟩ := List.mem_map.1 hfiltered
  obtain ⟨-, rfl⟩ := Prod.mk.inj he
  exact hr'

theorem Catalog.mem_entries_of_mem_listed {c : Catalog} {typed : String} {e : Entry} (h : e ∈ c.listed typed) :
    e ∈ c.entries := by
  rcases List.mem_append.1 h with h | h
  · obtain ⟨r, hr, rfl⟩ := List.mem_map.1 h
    exact List.mem_append_left _ (List.mem_map_of_mem (mem_of_mem_ranked hr))
  · obtain ⟨r, hr, rfl⟩ := List.mem_map.1 h
    exact List.mem_append_right _ (List.mem_map_of_mem (mem_of_mem_ranked hr))

namespace Picker

theorem mem_entries_of_highlighted? {p : Picker} {c : Option Catalog} {e : Entry} (h : p.highlighted? c = some e) :
    ∃ catalog, c = some catalog ∧ e ∈ catalog.entries := by
  obtain ⟨i, -, hi⟩ := Option.bind_eq_some_iff.1 h
  have hmem := List.mem_of_getElem? hi
  cases c with
  | none => cases hmem
  | some catalog => exact ⟨catalog, rfl, Catalog.mem_entries_of_mem_listed hmem⟩

/-! ### Choices -/

/-- What can be chosen: an entry of the catalog, or the text in the box. -/
inductive Pick where
  | entry (r : Ref)
  | text (input : String)
deriving DecidableEq

namespace Pick

/-- The text that the choice leaves in the box. -/
def input : Pick → String
  | entry r => r.name
  | text input => input

/-- The ref that the choice stands for. -/
def value : Pick → String
  | entry r => r.hash
  | text input => Text.trim input

/-- The text that the choice leaves in the box reads as the ref that it stands for. -/
def Readable : Pick → Prop
  | entry r => Text.trim r.name = r.hash
  | text _ => True

theorem readable_iff (pick : Pick) : pick.Readable ↔ Text.trim pick.input = pick.value := by
  cases pick with
  | entry r => exact Iff.rfl
  | text input => exact iff_of_true trivial rfl

end Pick

def enterPick (p : Picker) (c : Option Catalog) : Pick :=
  match p.highlighted? c with
  | some e => .entry e.ref
  | none => .text p.input

/-- The picker after a choice: closed, with the text of the choice in its box and on its label. -/
def picked (p : Picker) (pick : Pick) : Picker :=
  ({ p with input := pick.input, label := pick.input, value := pick.value } : Picker).dismiss

section Picked

variable {p : Picker} (h : p.isOpen = true)
include h

theorem select_of_isOpen (r : Ref) : p.select r = (p.picked (.entry r), some r.hash) := if_pos h

theorem confirmTyped_of_isOpen : p.confirmTyped = (p.picked (.text p.input), some (Text.trim p.input)) := if_pos h

theorem confirm_eq_enterPick (c : Option Catalog) :
    p.confirm c = (p.picked (p.enterPick c), some (p.enterPick c).value) := by
  unfold confirm enterPick
  cases p.highlighted? c with
  | some e => exact select_of_isOpen h e.ref
  | none => exact confirmTyped_of_isOpen h

end Picked

/-! ### Keys -/

/-- The same choice as in another picker. -/
structure SameChoice (p q : Picker) : Prop where
  value_eq : q.value = p.value
  label_eq : q.label = p.label

/-- What the keys other than Enter do to an open picker. -/
inductive Edits (c : Option Catalog) (p : Picker) : Picker → Prop where
  | dismiss : Edits c p p.dismiss
  | type (text : String) : Edits c p (p.setInput text)
  | down : Edits c p (p.moveDown c)
  | up : Edits c p (p.moveUp c)

theorem Edits.sameChoice {c : Option Catalog} {p q : Picker} (h : Edits c p q) : SameChoice p q := by
  cases h with
  | dismiss | down | up => exact ⟨rfl, rfl⟩
  | type text =>
    unfold setInput
    split <;> exact ⟨rfl, rfl⟩

theorem isOpen_setInput (p : Picker) (text : String) : (p.setInput text).isOpen = p.isOpen := by
  unfold setInput
  split <;> rfl

theorem Edits.isOpen {c : Option Catalog} {p q : Picker} (h : Edits c p q) (hq : q.isOpen = true) : p.isOpen = true := by
  cases h with
  | dismiss => cases hq
  | type text => rwa [isOpen_setInput] at hq
  | down | up => exact hq

theorem activate_of_closed {p : Picker} (h : p.isOpen = false) :
    p.activate = { p with isOpen := true, highlight := none } := if_neg (Bool.eq_false_iff.1 h)

theorem sameChoice_activate (p : Picker) : SameChoice p p.activate := by
  unfold activate
  split <;> exact ⟨rfl, rfl⟩

/-- The ways in which Enter makes a choice. -/
inductive Confirms (c : Option Catalog) (p : Picker) : Picker → String → Prop where
  /-- The highlighted entry is chosen. -/
  | entry {e : Entry} (h : p.highlighted? c = some e) :
    Confirms c p ({ p with input := e.ref.name, label := e.ref.name, value := e.ref.hash } : Picker).dismiss e.ref.hash
  /-- Nothing is highlighted, and the typed text is chosen. -/
  | typed (h : p.highlighted? c = none) :
    Confirms c p ({ p with label := p.input, value := Text.trim p.input } : Picker).dismiss (Text.trim p.input)

theorem Confirms.isOpen {c : Option Catalog} {p q : Picker} {value : String} (h : Confirms c p q value) :
    q.isOpen = false := by
  cases h <;> rfl

theorem confirm_of_isOpen {p : Picker} (h : p.isOpen = true) (c : Option Catalog) :
    ∃ q value, p.confirm c = (q, some value) ∧ Confirms c p q value := by
  refine ⟨_, _, confirm_eq_enterPick h c, ?_⟩
  unfold enterPick
  split
  · next e he => exact .entry he
  · next he => exact .typed he

/-! ### Labels -/

/-- The label is empty, the text of the value, or the name of a chosen ref that has the value as its hash. -/
def Labelled (p : Picker) (chosen : Ref → Prop) : Prop :=
  p.label = "" ∨ Text.trim p.label = p.value ∨ ∃ r, chosen r ∧ r.name = p.label ∧ r.hash = p.value

theorem Labelled.mono {p : Picker} {chosen chosen' : Ref → Prop} (h : p.Labelled chosen)
    (hc : ∀ r, chosen r → chosen' r) : p.Labelled chosen' := by
  rcases h with h | h | ⟨r, hr, hname, hhash⟩
  · exact .inl h
  · exact .inr (.inl h)
  · exact .inr (.inr ⟨r, hc r hr, hname, hhash⟩)

theorem Labelled.of_sameChoice {p q : Picker} {chosen : Ref → Prop} (h : p.Labelled chosen) (hs : SameChoice p q) :
    q.Labelled chosen := by
  rwa [Labelled, hs.value_eq, hs.label_eq]

/-- A label is either kept with its value or cleared. -/
theorem Labelled.adopt {p : Picker} {chosen : Ref → Prop} (h : p.Labelled chosen) (value : String) :
    (p.adopt value).Labelled chosen := by
  unfold Picker.adopt
  split
  · exact h
  · exact .inl rfl

theorem value_adopt (p : Picker) (value : String) : (p.adopt value).value = value := by
  unfold adopt
  split
  · next h => exact h.symm
  · rfl

theorem adopt_self {p : Picker} {value : String} (h : value = p.value) : p.adopt value = p := if_pos h

theorem isOpen_adopt (p : Picker) (value : String) : (p.adopt value).isOpen = p.isOpen := by
  unfold adopt
  split <;> rfl

theorem Confirms.labelled {c : Option Catalog} {p q : Picker} {value : String} (h : Confirms c p q value) :
    q.Labelled fun r => ∃ e, p.highlighted? c = some e ∧ e.ref = r := by
  cases h with
  | @entry e he => exact .inr (.inr ⟨e.ref, ⟨e, he, rfl⟩, rfl, rfl⟩)
  | typed => exact .inr (.inl rfl)

end Picker

end BenchCompare
