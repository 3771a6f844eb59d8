import BenchCompare.Proofs.Picker.Matching
import BenchCompare.Proofs.Text.Casing

/-!
# Finding an entry by a part of its name

A part of a name or hash is found in its lower case as long as the capital sigmas of the part keep their forms.

* `Text.exists_lower_of_part`: the lower case of a candidate holds that of its parts.
* `Text.KeepsForms.within`: a part that keeps its forms stands in the candidate, letter case aside.

Main statement: `mem_listed_of_part`.
-/

namespace BenchCompare

open Text (lowerBetween lowerAfter KeepsForms Sheltered)

/-! ### Lower case at a place -/

/-- The lower case of a candidate holds that of its parts, each at its place. -/
theorem Text.exists_lower_of_part {candidate : String} {before part after : List Char}
    (h : candidate.toList = before ++ part ++ after) :
    ∃ head tail, (lower candidate).toList = head ++ lowerBetween before.reverse part after ++ tail := by
  refine ⟨lowerBetween [] before (part ++ after), lowerAfter (part.reverse ++ before.reverse) after, ?_⟩
  rw [toList_lower, h, List.append_assoc, lowerAfter_append, List.append_nil, lowerAfter_append, List.append_assoc]

/-- A text that is a part of a candidate stands in it if its capital sigmas keep their forms. -/
theorem Text.KeepsForms.within {text candidate : String} {before after : List Char}
    (hk : KeepsForms before.reverse text.toList after) (h : candidate.toList = before ++ text.toList ++ after) :
    Within text candidate := by
  obtain ⟨head, tail, hlower⟩ := exists_lower_of_part h
  rw [lowerBetween_eq_iff.2 hk, ← toList_lower] at hlower
  exact ⟨head, tail, hlower.symm⟩

namespace Catalog

/-- **A part of a name finds the entry unless the cut changes a capital sigma.** Let the typed text, blank space at its
ends aside, be a part of the name or the hash of an entry. The entry is listed exactly if its name or hash holds the
text, letter case aside. In lower case, the part is the text exactly if its capital sigmas take the same forms in the
text alone as between the characters around it, and then the entry is listed. So it is for every text without capital
sigmas, and for every text in which they stand between other letters, whatever was cut off. -/
theorem mem_listed_of_part {c : Catalog} {e : Entry} (he : e ∈ c.entries) {field : String}
    (hfield : field = e.ref.name ∨ field = e.ref.hash) {typed : String} {before after : List Char}
    (h : field.toList = before ++ (Text.trim typed).toList ++ after) :
    let text := Text.trim typed
    let here := lowerBetween before.reverse text.toList after
    (e ∈ c.listed typed ↔ text = "" ∨ e.ref.Has (Text.Within text)) ∧
    (∃ head tail, (Text.lower field).toList = head ++ here ++ tail) ∧
    (here = (Text.lower text).toList ↔ KeepsForms before.reverse text.toList after) ∧
    (KeepsForms before.reverse text.toList after → e ∈ c.listed typed) ∧
    ('Σ' ∉ text.toList ∨ Sheltered text.toList → e ∈ c.listed typed) := by
  intro text here
  have hlisted : e ∈ c.listed typed ↔ text = "" ∨ e.ref.Has (Text.Within text) := by
    rw [mem_listed_iff, and_iff_right he]
    by_cases hblank : text = ""
    · exact iff_of_true (.inl hblank) (.inl hblank)
    · rw [Entry.matches_iff_has hblank, or_iff_right hblank]
  have hkeeps (hk : KeepsForms before.reverse text.toList after) : e ∈ c.listed typed := by
    have hwithin : Text.Within text field := hk.within h
    rw [hlisted]
    rcases hfield with rfl | rfl
    · exact .inr (.inl hwithin)
    · exact .inr (.inr hwithin)
  refine ⟨hlisted, Text.exists_lower_of_part h, ?_, hkeeps, ?_⟩
  · rw [Text.toList_lower]
    exact Text.lowerBetween_eq_iff
  · rintro (hnone | hsheltered)
    · exact hkeeps ((Text.sheltered_of_notMem hnone).keepsForms _ _)
    · exact hkeeps (hsheltered.keepsForms _ _)

/-- A capital sigma between other letters, typed in another case than the rest of the name. -/
theorem mem_listed_of_part_sheltered :
    let e : Entry := ⟨.branches, ⟨"v2 ΦΑΣΗ", "abc"⟩⟩
    let c : Catalog := { branches := [⟨"main", "def"⟩, e.ref] }
    e ∈ c.entries ∧ e.ref.name.toList = "v2 Φ".toList ++ (Text.trim " ΑΣΗ").toList ++ [] ∧ e ∈ c.listed " ΑΣΗ" := by
  intro e c
  have he : e ∈ c.entries := by decide
  have hpart : e.ref.name.toList = "v2 Φ".toList ++ (Text.trim " ΑΣΗ").toList ++ [] := by decide
  have hforms : KeepsForms "v2 Φ".toList.reverse (Text.trim " ΑΣΗ").toList [] := by decide +kernel
  exact ⟨he, hpart, (mem_listed_of_part he (.inl rfl) hpart).2.2.2.1 hforms⟩

/-- Cut after its capital sigma, a word is not found, although with its last letter it is. -/
theorem listed_cut_sigma :
    let phase : Ref := ⟨"ΦΑΣΗ", "abc"⟩
    let c : Catalog := { branches := [phase] }
    phase.name.toList = "ΦΑΣ".toList ++ ['Η'] ∧ Text.trim "ΦΑΣ" = "ΦΑΣ" ∧
      c.listed "ΦΑΣ" = [] ∧ c.listed "ΦΑΣΗ" = [⟨.branches, phase⟩] := by
  decide +kernel

end Catalog

end BenchCompare
