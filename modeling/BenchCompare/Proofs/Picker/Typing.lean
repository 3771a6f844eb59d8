import BenchCompare.Proofs.Picker.Choice
import BenchCompare.Shortcut.Key

/-!
# Typing in a picker

The keys other than Enter concern one picker alone.

* `Picker.typed c p k`: the picker `p` after the key `k`, over the catalog `c`.
* `exists_typed_of_ne_esc`, `exists_foldl_typed`: before Esc only the text in the box and the highlight change.
  `exists_typed`: with Esc among the keys, so does whether the picker is open, and nothing else.
-/

namespace BenchCompare.Picker

def typed (c : Option Catalog) (p : Picker) (k : Keystroke) : Picker :=
  match k.key with
  | .esc => p.dismiss
  | .up => p.moveUp c
  | .down | .tab => p.moveDown c
  | .backspace => p.pop
  | .char ch =>
    if k.mods.ctrl then if ch = 'u' then p.setInput "" else p
    else if k.mods.alt then p
    else p.push ch
  | _ => p

section Typed

variable (c : Option Catalog)

theorem exists_setInput (p : Picker) (text : String) :
    ∃ input highlight, p.setInput text = { p with input, highlight } := by
  unfold setInput
  split
  · exact ⟨text, none, rfl⟩
  · exact ⟨p.input, p.highlight, rfl⟩

theorem typed_esc {k : Keystroke} (h : k.key = .esc) (p : Picker) : p.typed c k = p.dismiss := by
  rw [typed, h]

/-- A key other than Esc changes the text in the box and the highlight only. -/
theorem exists_typed_of_ne_esc {k : Keystroke} (h : k.key ≠ .esc) (p : Picker) :
    ∃ input highlight, p.typed c k = { p with input, highlight } := by
  unfold typed
  split
  · next hk => exact absurd hk h
  · exact ⟨p.input, _, rfl⟩
  · exact ⟨p.input, _, rfl⟩
  · exact ⟨p.input, _, rfl⟩
  · exact exists_setInput p _
  · split
    · split
      · exact exists_setInput p _
      · exact ⟨p.input, p.highlight, rfl⟩
    split
    · exact ⟨p.input, p.highlight, rfl⟩
    · exact exists_setInput p _
  · exact ⟨p.input, p.highlight, rfl⟩

theorem exists_typed (p : Picker) (k : Keystroke) :
    ∃ isOpen input highlight, p.typed c k = { p with isOpen, input, highlight } := by
  by_cases h : k.key = .esc
  · exact ⟨false, p.input, none, typed_esc c h p⟩
  · obtain ⟨input, highlight, htyped⟩ := exists_typed_of_ne_esc c h p
    exact ⟨p.isOpen, input, highlight, htyped⟩

/-- So it is for any number of such keys. -/
theorem exists_foldl_typed {ks : List Keystroke} (h : ∀ k ∈ ks, k.key ≠ .esc) (p : Picker) :
    ∃ input highlight, ks.foldl (typed c) p = { p with input, highlight } := by
  induction ks generalizing p with
  | nil => exact ⟨p.input, p.highlight, rfl⟩
  | cons k ks ih =>
    obtain ⟨input, highlight, htyped⟩ := exists_typed_of_ne_esc c (h k List.mem_cons_self) p
    obtain ⟨input', highlight', hrest⟩ := ih (fun k' hk' => h k' (List.mem_cons_of_mem k hk')) (p.typed c k)
    exact ⟨input', highlight', by rw [List.foldl_cons, hrest, htyped]⟩

/-- Typing a text into the box of an open picker without a highlight adds the text to what is there. -/
theorem foldl_typed_plain {p : Picker} (ho : p.isOpen = true) (hh : p.highlight = none) (l : List Char) :
    (l.map Keystroke.plain).foldl (typed c) p = { p with input := p.input ++ String.ofList l } := by
  induction l generalizing p with
  | nil => rw [List.map_nil, List.foldl_nil, String.ofList_nil, String.append_empty]
  | cons ch l ih =>
    have hpush : p.typed c (.plain ch) = { p with input := p.input.push ch, highlight := none } := if_pos ho
    have htext : p.input.push ch ++ String.ofList l = p.input ++ String.ofList (ch :: l) := by
      rw [String.ofList_cons, ← String.append_assoc, String.append_singleton]
    have hrest := ih (p := p.typed c (.plain ch)) (hpush ▸ ho) (hpush ▸ rfl)
    rw [List.map_cons, List.foldl_cons, hrest, hpush, htext, hh]

end Typed

end BenchCompare.Picker
