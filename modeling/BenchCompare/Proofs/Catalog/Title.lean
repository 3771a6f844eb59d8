import BenchCompare.Catalog

/-!
# The title of an abbreviated commit

A commit is titled by the first entry whose hash holds it, at the start or elsewhere.

* `IsFirst p l before a`: behind the elements `before`, `a` is the first one of the list with the property `p`.
  `IsFirst.eq_or_mem`: the first one with a weaker property is the same or comes earlier.
* `Ref.HashStarts`, `Ref.HashHolds`: the hash of a ref starts with a text, or holds it somewhere.
* `Catalog.refs`: every branch, then every release. `isFirst_title`: the entry that gives the title.

Main statement: `title_of_abbreviation`.
-/

namespace BenchCompare

/-! ### The first one with a property -/

/-- Behind the elements `before`, `a` is the first one of the list with the property. -/
structure IsFirst {α : Type} (p : α → Prop) (l before : List α) (a : α) : Prop where
  place : before ++ [a] <+: l
  holds : p a
  not_before : ∀ b ∈ before, ¬ p b

section IsFirst

variable {α : Type} {p q : α → Prop} {l before before' : List α} {a a' : α}

theorem exists_isFirst_of_find? {test : α → Bool} (htest : ∀ a, test a = true ↔ p a) (h : l.find? test = some a) :
    ∃ before, IsFirst p l before a := by
  obtain ⟨ha, before, after, rfl, hbefore⟩ := List.find?_eq_some_iff_append.1 h
  refine ⟨before, ⟨after, by simp⟩, (htest a).1 ha, fun b hb hp => ?_⟩
  have hfalse := hbefore b hb
  rw [(htest b).2 hp] at hfalse
  cases hfalse

theorem exists_isFirst [DecidablePred p] (h : ∃ a ∈ l, p a) : ∃ before a, IsFirst p l before a := by
  have hsome : (l.find? fun a => decide (p a)).isSome = true := by
    rw [List.find?_isSome]
    simpa using h
  obtain ⟨a, ha⟩ := Option.isSome_iff_exists.1 hsome
  obtain ⟨before, hfirst⟩ := exists_isFirst_of_find? (fun a => decide_eq_true_iff) ha
  exact ⟨before, a, hfirst⟩

/-- Where every element with `p` also has `q`, the first one with `q` is the first one with `p` or comes before it. -/
theorem IsFirst.eq_or_mem (hp : IsFirst p l before a) (hpq : ∀ a, p a → q a) (hq : IsFirst q l before' a') :
    (before' = before ∧ a' = a) ∨ a' ∈ before := by
  rcases List.prefix_or_prefix_of_prefix hq.place hp.place with hle | hle
  · rcases List.prefix_concat_iff.1 hle with heq | hle
    · obtain ⟨hbefore, ha⟩ := List.append_inj' heq rfl
      exact .inl ⟨hbefore, List.singleton_inj.1 ha⟩
    · exact .inr (hle.subset (List.mem_append_right _ (List.mem_singleton_self a')))
  · rcases List.prefix_concat_iff.1 hle with heq | hle
    · obtain ⟨hbefore, ha⟩ := List.append_inj' heq rfl
      exact .inl ⟨hbefore.symm, (List.singleton_inj.1 ha).symm⟩
    · -- `a` has `q` too, so it cannot stand before the first one with `q`
      have hmem := hle.subset (List.mem_append_right before (List.mem_singleton_self a))
      exact absurd (hpq a hp.holds) (hq.not_before a hmem)

theorem IsFirst.unique (h : IsFirst p l before a) (h' : IsFirst p l before' a') : before' = before ∧ a' = a := by
  rcases h.eq_or_mem (fun _ ha => ha) h' with heq | hmem
  · exact heq
  · exact absurd h'.holds (h.not_before a' hmem)

/-- The first one with the weaker property has the stronger one too exactly if nothing before the first one with the
stronger property has the weaker one. -/
theorem IsFirst.holds_iff (hp : IsFirst p l before a) (hpq : ∀ a, p a → q a) (hq : IsFirst q l before' a') :
    p a' ↔ ∀ b ∈ before, ¬ q b := by
  rcases hp.eq_or_mem hpq hq with ⟨rfl, rfl⟩ | hmem
  · exact iff_of_true hp.holds hq.not_before
  · exact iff_of_false (hp.not_before a' hmem) fun hnone => hnone a' hmem hq.holds

end IsFirst

/-! ### Titles -/

namespace Ref

def HashStarts (value : String) (r : Ref) : Prop := value.toList <+: r.hash.toList

def HashHolds (value : String) (r : Ref) : Prop := value.toList <:+: r.hash.toList

instance (value : String) : DecidablePred (HashStarts value) := fun _ => inferInstanceAs (Decidable (_ <+: _))

instance (value : String) : DecidablePred (HashHolds value) := fun _ => inferInstanceAs (Decidable (_ <:+: _))

theorem HashStarts.hashHolds {value : String} {r : Ref} (h : r.HashStarts value) : r.HashHolds value := h.isInfix

end Ref

namespace Catalog

def refs (c : Catalog) : List Ref := c.branches ++ c.releases

theorem map_ref_entries (c : Catalog) : c.entries.map Entry.ref = c.refs := by
  simp [entries, refs, Function.comp_def]

/-- A commit that some hash holds is titled by the first entry with such a hash. -/
theorem isFirst_title {c : Catalog} {value : String} (hne : value ≠ "") (h : ∃ r ∈ c.refs, r.HashHolds value) :
    ∃ before r, IsFirst (Ref.HashHolds value) c.refs before r ∧ c.title value = r.name := by
  have htest (r : Ref) : Text.occursIn value.toList r.hash.toList = true ↔ r.HashHolds value := Text.occursIn_iff
  have hfind : (c.refs.find? fun r => Text.occursIn value.toList r.hash.toList) =
      (c.entries.find? fun e => Text.occursIn value.toList e.ref.hash.toList).map Entry.ref := by
    rw [← map_ref_entries, List.find?_map]
    rfl
  cases hentry : c.entries.find? fun e => Text.occursIn value.toList e.ref.hash.toList with
  | some e =>
    rw [hentry] at hfind
    obtain ⟨before, hfirst⟩ := exists_isFirst_of_find? htest hfind
    refine ⟨before, e.ref, hfirst, ?_⟩
    rw [title, if_neg hne, hentry]
  | none =>
    rw [hentry] at hfind
    obtain ⟨r, hr, hholds⟩ := h
    exact absurd ((htest r).2 hholds) (List.find?_eq_none.1 hfind r hr)

/-- **An abbreviated commit is titled by the first entry whose hash holds it.** Let a hash of the catalog start with the
characters of a commit. The title is the name of the first entry, branches before releases, whose hash holds them. That
hash starts with them exactly if no hash before the first one that starts with them holds them elsewhere, and then it is
this first entry that gives the title. -/
theorem title_of_abbreviation {c : Catalog} {value : String} (hne : value ≠ "")
    (h : ∃ r ∈ c.refs, r.HashStarts value) :
    ∃ before first earlier shown, IsFirst (Ref.HashStarts value) c.refs before first ∧
      IsFirst (Ref.HashHolds value) c.refs earlier shown ∧ c.title value = shown.name ∧
      (shown.HashStarts value ↔ ∀ r ∈ before, ¬ r.HashHolds value) ∧
      ((∀ r ∈ before, ¬ r.HashHolds value) → c.title value = first.name) := by
  obtain ⟨before, first, hfirst⟩ := exists_isFirst h
  have hholds : ∃ r ∈ c.refs, r.HashHolds value := by
    obtain ⟨r, hr, hstarts⟩ := h
    exact ⟨r, hr, hstarts.hashHolds⟩
  obtain ⟨earlier, shown, hshown, htitle⟩ := isFirst_title hne hholds
  refine ⟨before, first, earlier, shown, hfirst, hshown, htitle, ?_, fun hnone => ?_⟩
  · exact hfirst.holds_iff (fun r => Ref.HashStarts.hashHolds) hshown
  · rcases hfirst.eq_or_mem (fun r => Ref.HashStarts.hashHolds) hshown with ⟨-, rfl⟩ | hmem
    · exact htitle
    · exact absurd hshown.holds (hnone shown hmem)

/-- A branch and a release start with the same characters, which a later release holds elsewhere. -/
theorem title_of_abbreviation_shared :
    let c : Catalog := {
      branches := [⟨"main", "f00d"⟩, ⟨"dev", "abc1"⟩], releases := [⟨"v1", "abc2"⟩, ⟨"v0", "0abc"⟩] }
    "abc" ≠ "" ∧ (∃ r ∈ c.refs, r.HashStarts "abc") ∧ c.title "abc" = "dev" := by
  intro c
  have hne : "abc" ≠ "" := by decide
  have hstarts : ∃ r ∈ c.refs, r.HashStarts "abc" := by decide
  have hdev : IsFirst (Ref.HashStarts "abc") c.refs [⟨"main", "f00d"⟩] ⟨"dev", "abc1"⟩ :=
    ⟨by decide, by decide, by decide⟩
  obtain ⟨before, first, -, -, hfirst, -, -, -, htitle⟩ := title_of_abbreviation hne hstarts
  obtain ⟨rfl, rfl⟩ := hdev.unique hfirst
  exact ⟨hne, hstarts, htitle (by decide)⟩

/-- A branch whose hash holds the characters at its end hides the release that they abbreviate. -/
theorem title_hides_abbreviated :
    let c : Catalog := { branches := [⟨"main", "0abc"⟩], releases := [⟨"v1", "abcd"⟩] }
    (∃ r ∈ c.refs, r.HashStarts "abc") ∧ c.title "abc" = "main" ∧
      ¬ ∀ (c : Catalog) (value : String), value ≠ "" → (∃ r ∈ c.refs, r.HashStarts value) →
        ∃ r ∈ c.refs, r.HashStarts value ∧ c.title value = r.name := by
  intro c
  have hstarts : ∃ r ∈ c.refs, r.HashStarts "abc" := by decide
  refine ⟨hstarts, by decide, fun hall => ?_⟩
  have hnone : ¬ ∃ r ∈ c.refs, r.HashStarts "abc" ∧ c.title "abc" = r.name := by decide
  exact hnone (hall c "abc" (by decide) hstarts)

end Catalog

end BenchCompare
