import BenchCompare.Text.Casing

/-!
# The lower case of a part of a text

Only a capital sigma has a lower case that depends on what stands around it, so nothing below looks into the tables of
letters.

* `lowerAt before c after`, `lowerBetween before part after`: the lower case of a character and of a part of a text,
  between the characters before it, nearest first, and those after it. `lowerAfter_append` cuts the lower case of a text
  into that of its parts.
* `EndsWord before after`: a capital sigma between these characters takes the final form.
* `KeepsForms before part after`: the capital sigmas of a part take the same forms in the part alone as in the whole
  text. `lowerBetween_eq_iff`: exactly then the part has the same lower case in both.
* `Sheltered part`: letters of the part itself stand around its capital sigmas, so they keep their forms in every text
  (`Sheltered.keepsForms`).
-/

namespace BenchCompare.Text

/-! ### Parts of a text -/

/-- The lower case of a character between others. -/
def lowerAt (before : List Char) (c : Char) (after : List Char) : List Char :=
  if c == 'Σ' then (if meetsCased before && !meetsCased after then ['ς'] else ['σ']) else lowerChar c

/-- The lower case of a part of a text between others. -/
def lowerBetween (before : List Char) : List Char → List Char → List Char
  | [], _ => []
  | c :: rest, after => lowerAt before c (rest ++ after) ++ lowerBetween (c :: before) rest after

theorem toList_lower (s : String) : (lower s).toList = lowerAfter [] s.toList := by
  rw [lower, String.toList_ofList]

theorem lowerAfter_cons (before : List Char) (c : Char) (rest : List Char) :
    lowerAfter before (c :: rest) = lowerAt before c rest ++ lowerAfter (c :: before) rest := rfl

theorem lowerAfter_append (before part after : List Char) : lowerAfter before (part ++ after) =
    lowerBetween before part after ++ lowerAfter (part.reverse ++ before) after := by
  induction part generalizing before with
  | nil => rfl
  | cons c rest ih =>
    rw [List.cons_append, lowerAfter_cons, ih, lowerBetween, List.append_assoc, List.reverse_cons, List.append_assoc,
      List.singleton_append]

/-! ### Capital sigmas -/

/-- A capital sigma between these characters ends a word. -/
def EndsWord (before after : List Char) : Prop := meetsCased before = true ∧ meetsCased after = false

instance (before after : List Char) : Decidable (EndsWord before after) := inferInstanceAs (Decidable (_ ∧ _))

theorem lowerAt_sigma (before after : List Char) :
    lowerAt before 'Σ' after = if EndsWord before after then ['ς'] else ['σ'] := by
  cases hb : meetsCased before <;> cases ha : meetsCased after <;> simp [lowerAt, EndsWord, hb, ha]

theorem lowerAt_of_ne {c : Char} (h : c ≠ 'Σ') (before after : List Char) : lowerAt before c after = lowerChar c :=
  if_neg (by simpa using h)

theorem length_lowerAt (c : Char) (before after before' after' : List Char) :
    (lowerAt before c after).length = (lowerAt before' c after').length := by
  by_cases h : c = 'Σ'
  · subst h
    rw [lowerAt_sigma, lowerAt_sigma]
    split <;> split <;> rfl
  · rw [lowerAt_of_ne h, lowerAt_of_ne h]

/-- Two places give a character the same lower case unless it is a capital sigma and ends a word at one of them only. -/
theorem lowerAt_eq_iff {c : Char} {before after before' after' : List Char} :
    lowerAt before c after = lowerAt before' c after' ↔
      (c = 'Σ' → (EndsWord before after ↔ EndsWord before' after')) := by
  by_cases h : c = 'Σ'
  · subst h
    rw [lowerAt_sigma, lowerAt_sigma]
    by_cases he : EndsWord before after <;> by_cases he' : EndsWord before' after' <;> simp [he, he']
  · rw [lowerAt_of_ne h, lowerAt_of_ne h]
    exact iff_of_true rfl fun hc => absurd hc h

/-- The capital sigmas of a part take the same forms in the part alone as between `before` and `after`. -/
def KeepsForms (before part after : List Char) : Prop :=
  ∀ l r, part = l ++ 'Σ' :: r → (EndsWord (l.reverse ++ before) (r ++ after) ↔ EndsWord l.reverse r)

/-- The induction is on the part, and what has been seen of it stands before in both texts. -/
theorem lowerBetween_eq_lowerAfter_iff (seen before part after : List Char) :
    lowerBetween (seen ++ before) part after = lowerAfter seen part ↔
      ∀ l r, part = l ++ 'Σ' :: r →
        (EndsWord (l.reverse ++ (seen ++ before)) (r ++ after) ↔ EndsWord (l.reverse ++ seen) r) := by
  induction part generalizing seen with
  | nil => simp [lowerBetween, lowerAfter]
  | cons c rest ih =>
    rw [lowerBetween, lowerAfter_cons, List.append_eq_append_iff_of_size_eq_left (length_lowerAt ..), lowerAt_eq_iff,
      ← List.cons_append, ih]
    constructor
    · rintro ⟨hc, hrest⟩ l r h
      cases l with
      | nil =>
        obtain ⟨rfl, rfl⟩ := List.cons.inj h
        exact hc rfl
      | cons c' l =>
        obtain ⟨rfl, rfl⟩ := List.cons.inj h
        simpa using hrest l r rfl
    · intro h
      refine ⟨?_, ?_⟩
      · rintro rfl
        exact h [] rest rfl
      · rintro l r rfl
        simpa using h (c :: l) r rfl

/-- **The lower case of a part is that of its place in the text exactly if its capital sigmas keep their forms.** -/
theorem lowerBetween_eq_iff {before part after : List Char} :
    lowerBetween before part after = lowerAfter [] part ↔ KeepsForms before part after := by
  have h := lowerBetween_eq_lowerAfter_iff [] before part after
  simpa only [KeepsForms, List.nil_append, List.append_nil] using h

instance (before part after : List Char) : Decidable (KeepsForms before part after) :=
  decidable_of_iff _ lowerBetween_eq_iff

/-! ### Sigmas with letters around them -/

theorem meetsCased_append {l : List Char} (h : ∃ c ∈ l, isCaseIgnorable c = false) (l' : List Char) :
    meetsCased (l ++ l') = meetsCased l := by
  induction l with
  | nil =>
    obtain ⟨c, hc, -⟩ := h
    cases hc
  | cons a l ih =>
    cases ha : isCaseIgnorable a with
    | false => simp [meetsCased, ha]
    | true =>
      have hl : ∃ c ∈ l, isCaseIgnorable c = false := by
        obtain ⟨c, hc, hi⟩ := h
        rcases List.mem_cons.1 hc with rfl | hc
        · rw [ha] at hi
          cases hi
        · exact ⟨c, hc, hi⟩
      have hskip : ∀ t, meetsCased (a :: t) = meetsCased t := by
        intro t
        simp [meetsCased, ha]
      rw [List.cons_append, hskip, hskip, ih hl]

/-- On both sides of every capital sigma of the part stands a character that is not ignorable. -/
def Sheltered (part : List Char) : Prop :=
  ∀ l r, part = l ++ 'Σ' :: r → (∃ c ∈ l, isCaseIgnorable c = false) ∧ ∃ c ∈ r, isCaseIgnorable c = false

theorem sheltered_of_notMem {part : List Char} (h : 'Σ' ∉ part) : Sheltered part := by
  rintro l r rfl
  exact absurd (List.mem_append_right l List.mem_cons_self) h

theorem Sheltered.keepsForms {part : List Char} (h : Sheltered part) (before after : List Char) :
    KeepsForms before part after := by
  intro l r hpart
  obtain ⟨⟨c, hc, hi⟩, hr⟩ := h l r hpart
  rw [EndsWord, EndsWord, meetsCased_append ⟨c, List.mem_reverse.2 hc, hi⟩, meetsCased_append hr]

end BenchCompare.Text
