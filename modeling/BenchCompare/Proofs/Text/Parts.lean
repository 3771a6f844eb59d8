import BenchCompare.Text.Blank
import BenchCompare.Text.Search
import Mathlib.Data.List.TakeWhile

/-!
# Parts and ends of a text

* `splitParts_of_notMem`, `splitParts_append`: how a text without the separator splits, alone and before one.
  `splitParts_eq_splitOn`: these are the parts that the lists of the library have. `notMem_of_mem_splitOn`: no part has
  the separator. `splitOn_flatMap_append`: parts that are written with it behind each of them are found again;
* `trimChars_of_notBlank`: a text without blank characters has nothing to trim. `trimChars_eq_nil_iff`: nothing is left
  of a blank text. `isBlank_of_trimChars`: a character that is left alone is not blank.
-/

namespace BenchCompare.Text

theorem splitParts_of_notMem {sep : Char} {l : List Char} (h : sep ∉ l) : splitParts sep l = [l] := by
  induction l with
  | nil => rfl
  | cons c l ih =>
    rw [List.mem_cons, not_or] at h
    have hne : (c == sep) = false := by simpa using Ne.symm h.1
    simp only [splitParts, hne, ih h.2, Bool.false_eq_true, if_false]

theorem splitParts_append {sep : Char} {l : List Char} (rest : List Char) (h : sep ∉ l) :
    splitParts sep (l ++ sep :: rest) = l :: splitParts sep rest := by
  induction l with
  | nil => simp [splitParts]
  | cons c l ih =>
    rw [List.mem_cons, not_or] at h
    have hne : (c == sep) = false := by simpa using Ne.symm h.1
    simp only [List.cons_append, splitParts, hne, ih h.2, Bool.false_eq_true, if_false]

theorem splitParts_eq_splitOn (sep : Char) (l : List Char) : splitParts sep l = l.splitOn sep := by
  induction l with
  | nil => rfl
  | cons c l ih =>
    obtain ⟨part, parts, hparts⟩ := List.exists_cons_of_ne_nil (List.splitOn_ne_nil sep l)
    have hcons : (c :: l).splitOn sep =
        if c == sep then [] :: l.splitOn sep else (l.splitOn sep).modifyHead (List.cons c) :=
      List.splitOnP_cons_eq_if_modifyHead c l
    rw [splitParts, ih, hcons, hparts]
    rfl

theorem notMem_of_mem_splitOn {sep : Char} {l part : List Char} (h : part ∈ l.splitOn sep) : sep ∉ part := by
  rw [← splitParts_eq_splitOn] at h
  induction l generalizing part with
  | nil =>
    obtain rfl := List.mem_singleton.1 h
    exact List.not_mem_nil
  | cons c l ih =>
    obtain ⟨first, others, hparts⟩ := List.exists_cons_of_ne_nil (List.splitOn_ne_nil sep l)
    rw [← splitParts_eq_splitOn] at hparts
    rw [splitParts, hparts] at h
    by_cases hc : c = sep
    · rw [if_pos (beq_iff_eq.2 hc)] at h
      rcases List.mem_cons.1 h with rfl | h
      · exact List.not_mem_nil
      · exact ih (hparts ▸ h)
    · rw [if_neg (by simpa using hc)] at h
      rcases List.mem_cons.1 h with rfl | h
      · have hfirst : sep ∉ first := ih (hparts ▸ List.mem_cons_self)
        simpa [Ne.symm hc] using hfirst
      · exact ih (hparts ▸ List.mem_cons_of_mem first h)

theorem splitOn_flatMap_append {sep : Char} {parts : List (List Char)} {last : List Char}
    (h : ∀ part ∈ parts, sep ∉ part) (hlast : sep ∉ last) :
    (parts.flatMap (· ++ [sep]) ++ last).splitOn sep = parts ++ [last] := by
  induction parts with
  | nil => exact List.splitOn_eq_singleton hlast
  | cons part parts ih =>
    have hrest := ih fun part' hpart' => h part' (List.mem_cons_of_mem part hpart')
    rw [List.flatMap_cons, List.append_assoc, List.append_assoc, List.singleton_append,
      List.splitOn_append_cons_self_of_not_mem (h part List.mem_cons_self), hrest, List.cons_append]

theorem dropWhile_of_forall_not {p : Char → Bool} {l : List Char} (h : ∀ c ∈ l, p c = false) :
    l.dropWhile p = l := by
  cases l with
  | nil => rfl
  | cons c l => rw [List.dropWhile_cons_of_neg (by simp [h c])]

theorem trimChars_of_notBlank {l : List Char} (h : ∀ c ∈ l, isBlank c = false) : trimChars l = l := by
  have hr : ∀ c ∈ l.reverse, isBlank c = false := fun c hc => h c (List.mem_reverse.1 hc)
  rw [trimChars, dropWhile_of_forall_not h, dropWhile_of_forall_not hr, List.reverse_reverse]

theorem trimChars_eq_nil_iff {l : List Char} : trimChars l = [] ↔ ∀ c ∈ l, isBlank c = true := by
  rw [trimChars, List.reverse_eq_nil_iff, List.dropWhile_eq_nil_iff]
  constructor
  · intro hrest c hc
    rw [← List.takeWhile_append_dropWhile (p := isBlank) (l := l)] at hc
    rcases List.mem_append.1 hc with hc | hc
    · exact List.mem_takeWhile_imp hc
    · exact hrest c (List.mem_reverse.2 hc)
  · intro hall c hc
    exact hall c ((List.dropWhile_sublist isBlank).subset (List.mem_reverse.1 hc))

theorem trimChars_ne_nil {l : List Char} (h : ∃ c ∈ l, isBlank c = false) : trimChars l ≠ [] := by
  intro hnil
  obtain ⟨c, hc, hfalse⟩ := h
  have htrue := trimChars_eq_nil_iff.1 hnil c hc
  rw [hfalse] at htrue
  cases htrue

theorem trimChars_subset (l : List Char) : trimChars l ⊆ l := by
  intro c hc
  have hrest := (List.dropWhile_sublist isBlank).subset (List.mem_reverse.1 hc)
  exact (List.dropWhile_sublist isBlank).subset (List.mem_reverse.1 hrest)

theorem isBlank_of_trimChars {l : List Char} {c : Char} (h : trimChars l = [c]) : isBlank c = false := by
  have hdrop : (l.dropWhile isBlank).reverse.dropWhile isBlank = [c] := List.reverse_eq_iff.1 h
  have hhead := List.head?_dropWhile_not isBlank (l.dropWhile isBlank).reverse
  rw [hdrop] at hhead
  exact hhead

end BenchCompare.Text
