import BenchCompare.Proofs.Picker.Listing

/-!
# How a text matches an entry

Letter case aside, a text is a whole name or hash, or it stands at its start, or somewhere in it.

* `Text.Equals`, `Text.Starts`, `Text.Within`: these three, each of which gives the next one. `Text.StartsClosely`: the
  text stands at the start, and fewer than forty bytes follow it.
* `fifty_lt_matchScore_iff`, `ten_lt_matchScore_iff`, `nine_lt_matchScore_iff`: the bounds at which a score tells
  them apart.
* `Ref.Has p r`: the name or the hash of a ref has the property `p`. `Ref.lt_score_iff` takes bounds from the score of a
  candidate to the score of a ref.
* `Catalog.mem_listed_iff`: what is listed for a text.
* `Entry.lt_iff_precedes`: what stands before what in a list in order. `Catalog.ranked_of_pairwise`: refs whose
  scores do not grow along the list stay in their order.

Main statement: `listed_by_match`.
-/

namespace BenchCompare

/-! ### One candidate -/

namespace Text

variable (text candidate : String)

/-- The text is the candidate, letter case aside. -/
def Equals : Prop := lower candidate = lower text

/-- The text stands at the start of the candidate, letter case aside. -/
def Starts : Prop := (lower text).toList <+: (lower candidate).toList

/-- The text stands in the candidate, letter case aside. -/
def Within : Prop := (lower text).toList <:+: (lower candidate).toList

/-- The text stands at the start of the candidate, and fewer than forty bytes follow it. -/
def StartsClosely : Prop :=
  Starts text candidate ∧ (lower candidate).utf8ByteSize < (lower text).utf8ByteSize + 40

instance : Decidable (Equals text candidate) := inferInstanceAs (Decidable (_ = _))

instance : Decidable (Starts text candidate) := inferInstanceAs (Decidable (_ <+: _))

instance : Decidable (Within text candidate) := inferInstanceAs (Decidable (_ <:+: _))

instance : Decidable (StartsClosely text candidate) := inferInstanceAs (Decidable (_ ∧ _))

variable {text candidate}

theorem Equals.startsClosely (h : Equals text candidate) : StartsClosely text candidate := by
  rw [Equals] at h
  rw [StartsClosely, Starts, h]
  exact ⟨List.prefix_rfl, Nat.lt_add_of_pos_right (by decide)⟩

theorem Starts.within (h : Starts text candidate) : Within text candidate := h.isInfix

end Text

section Score

open Text (Equals Starts Within StartsClosely)

variable {text candidate : String}

theorem matchScore_eq : matchScore text candidate =
    if Equals text candidate then 100
    else if Starts text candidate then
      50 - min ((Text.lower candidate).utf8ByteSize - (Text.lower text).utf8ByteSize) 40
    else if Within text candidate then 10
    else 0 := by
  rw [matchScore]
  exact if_congr Iff.rfl rfl (if_congr List.isPrefixOf_iff_prefix rfl (if_congr Text.occursIn_iff rfl rfl))

theorem fifty_lt_matchScore_iff : 50 < matchScore text candidate ↔ Equals text candidate := by
  rw [matchScore_eq]
  split_ifs with h
  · exact iff_of_true (by decide) h
  · exact iff_of_false (by omega) h
  · exact iff_of_false (by decide) h
  · exact iff_of_false (by decide) h

theorem ten_lt_matchScore_iff : 10 < matchScore text candidate ↔ StartsClosely text candidate := by
  rw [matchScore_eq]
  split_ifs with hequals hstarts
  · exact iff_of_true (by decide) hequals.startsClosely
  · rw [StartsClosely, and_iff_right hstarts]
    omega
  · exact iff_of_false (by decide) fun h => hstarts h.1
  · exact iff_of_false (by decide) fun h => hstarts h.1

theorem nine_lt_matchScore_iff : 9 < matchScore text candidate ↔ Within text candidate := by
  rw [matchScore_eq]
  split_ifs with hequals hstarts hwithin
  · exact iff_of_true (by decide) hequals.startsClosely.1.within
  · exact iff_of_true (by omega) hstarts.within
  · exact iff_of_true (by decide) hwithin
  · exact iff_of_false (by decide) hwithin

/-- No score lies between zero and ten. -/
theorem matchScore_pos_iff : 0 < matchScore text candidate ↔ Within text candidate := by
  rw [← nine_lt_matchScore_iff, matchScore_eq]
  split_ifs <;> omega

end Score

/-! ### Entries -/

namespace Ref

/-- The name or the hash has the property. -/
def Has (p : String → Prop) (r : Ref) : Prop := p r.name ∨ p r.hash

instance (p : String → Prop) [DecidablePred p] (r : Ref) : Decidable (r.Has p) := inferInstanceAs (Decidable (_ ∨ _))

theorem Has.imp {p q : String → Prop} (h : ∀ field, p field → q field) {r : Ref} (hr : r.Has p) : r.Has q :=
  Or.imp (h r.name) (h r.hash) hr

theorem lt_score_iff {text : String} (h : text ≠ "") {n : Nat} {p : String → Prop}
    (hp : ∀ field, n < matchScore text field ↔ p field) (r : Ref) : n < r.score text ↔ r.Has p := by
  rw [score, if_neg h, Has, ← hp, ← hp]
  omega

end Ref

namespace Entry

theorem matches_iff_has {text : String} (h : text ≠ "") (e : Entry) :
    e.Matches text ↔ e.ref.Has (Text.Within text) := by
  rw [matches_iff]
  exact Ref.lt_score_iff h (fun _ => matchScore_pos_iff) e.ref

theorem lt_iff_precedes {text : String} {places : List (Entry × Nat)} (h : places.Pairwise (Precedes text))
    {i j : Nat} {a b : Entry × Nat} (ha : places[i]? = some a) (hb : places[j]? = some b) :
    i < j ↔ Precedes text a b := by
  obtain ⟨hi, rfl⟩ := List.getElem?_eq_some_iff.1 ha
  obtain ⟨hj, rfl⟩ := List.getElem?_eq_some_iff.1 hb
  have hpairwise := List.pairwise_iff_getElem.1 h
  constructor
  · exact hpairwise i j hi hj
  · intro hp
    rcases Nat.lt_trichotomy i j with hlt | rfl | hgt
    · exact hlt
    · exact absurd hp hp.asymm
    · exact absurd (hpairwise j i hj hi hgt) hp.asymm

end Entry

namespace Catalog

open Entry (Precedes)
open Text (Equals Starts Within StartsClosely)

theorem mem_listed_iff {c : Catalog} {typed : String} {e : Entry} :
    e ∈ c.listed typed ↔ e ∈ c.entries ∧ e.Matches (Text.trim typed) := by
  rw [listed_eq_map_places, ((c.perm_listedPlaces _).map _).mem_iff]
  conv_rhs => rw [← List.zipIdx_map_fst 0 c.entries]
  simp only [List.mem_map, List.mem_filter, decide_eq_true_eq]
  constructor
  · rintro ⟨p, ⟨hp, hm⟩, rfl⟩
    exact ⟨⟨p, hp, rfl⟩, hm⟩
  · rintro ⟨⟨p, hp, rfl⟩, hm⟩
    exact ⟨p, ⟨hp, hm⟩, rfl⟩

/-- Refs whose scores do not grow along the list stay in their order. -/
theorem ranked_of_pairwise {text : String} {refs : List Ref}
    (h : refs.Pairwise fun a b => b.score text ≤ a.score text) :
    ranked text refs = refs.filter fun r => 0 < r.score text := by
  rw [ranked_eq]
  exact List.mergeSort_of_pairwise ((h.imp decide_eq_true).sublist List.filter_sublist)

/-- **Whole matches stand first, and starts before other matches unless forty bytes or more follow them.** Let a text
that is not blank be typed. The entries with the text in their name or hash stand in the list, once for each place of
the catalog. In a group, every entry whose name or hash is the text stands before all others. An entry with the text at
the start stands before one that only has it elsewhere if fewer than forty bytes follow the text, and otherwise the
one that comes first in the catalog stands before the other. -/
theorem listed_by_match (c : Catalog) (typed : String) (h : Text.trim typed ≠ "") :
    let text := Text.trim typed
    ∃ places : List (Entry × Nat),
      places.Perm (c.entries.zipIdx.filter fun p => p.1.ref.Has (Within text)) ∧
      c.listed typed = places.map (·.1) ∧
      ∀ (i j : Nat) (a b : Entry × Nat), places[i]? = some a → places[j]? = some b → a.1.group = b.1.group →
        (a.1.ref.Has (Equals text) → ¬ b.1.ref.Has (Equals text) → i < j) ∧
        (a.1.ref.Has (Starts text) → ¬ b.1.ref.Has (Starts text) →
          (i < j ↔ a.1.ref.Has (StartsClosely text) ∨ a.2 < b.2)) := by
  intro text
  have hperm : (c.listedPlaces text).Perm (c.entries.zipIdx.filter fun p => p.1.ref.Has (Within text)) := by
    refine (c.perm_listedPlaces text).trans (.of_eq (List.filter_congr fun p _ => ?_))
    rw [decide_eq_decide, Entry.matches_iff_has h]
  refine ⟨c.listedPlaces text, hperm, c.listed_eq_map_places typed, ?_⟩
  intro i j a b ha hb hgroup
  have hbefore : i < j ↔ b.1.ref.score text < a.1.ref.score text ∨
      a.1.ref.score text = b.1.ref.score text ∧ a.2 < b.2 := by
    rw [Entry.lt_iff_precedes (c.pairwise_listedPlaces text) ha hb, Precedes, hgroup]
    simp
  have hequals (r : Ref) : 50 < r.score text ↔ r.Has (Equals text) :=
    Ref.lt_score_iff h (fun _ => fifty_lt_matchScore_iff) r
  have hclosely (r : Ref) : 10 < r.score text ↔ r.Has (StartsClosely text) :=
    Ref.lt_score_iff h (fun _ => ten_lt_matchScore_iff) r
  have hwithin (r : Ref) : 9 < r.score text ↔ r.Has (Within text) :=
    Ref.lt_score_iff h (fun _ => nine_lt_matchScore_iff) r
  constructor
  · intro hea heb
    rw [← hequals] at hea heb
    exact hbefore.2 (.inl (by omega))
  · intro hsa hsb
    have hwa : 9 < a.1.ref.score text := (hwithin _).2 (hsa.imp fun _ => Text.Starts.within)
    have hwb : 9 < b.1.ref.score text :=
      (hwithin _).2 (of_decide_eq_true (List.mem_filter.1 (hperm.mem_iff.1 (List.mem_of_getElem? hb))).2)
    have hcb : ¬ 10 < b.1.ref.score text := fun hlt => hsb (((hclosely _).1 hlt).imp fun _ => And.left)
    rw [hbefore, ← hclosely]
    omega

/-- In one group, the text itself stands before a name that starts with it, and that one before a name that ends with
it, against the order of the catalog. -/
theorem listed_by_match_release :
    let inside : Entry := ⟨.branches, ⟨"old-release", "abc"⟩⟩
    let start : Entry := ⟨.branches, ⟨"release-19.0", "def"⟩⟩
    let whole : Entry := ⟨.branches, ⟨"Release", "abd"⟩⟩
    let c : Catalog := { branches := [inside.ref, start.ref, whole.ref] }
    Text.trim " release" ≠ "" ∧ ∃ places : List (Entry × Nat), c.listed " release" = places.map (·.1) ∧
      ∀ i j k : Nat, places[i]? = some (whole, 2) → places[j]? = some (start, 1) → places[k]? = some (inside, 0) →
        i < j ∧ j < k := by
  intro inside start whole c
  have htext : Text.trim " release" = "release" := by decide
  have hblank : Text.trim " release" ≠ "" := by rw [htext]; decide
  obtain ⟨places, -, hlisted, hbefore⟩ := listed_by_match c " release" hblank
  simp only [htext] at hbefore
  refine ⟨hblank, places, hlisted, fun i j k hi hj hk => ⟨?_, ?_⟩⟩
  · exact (hbefore i j _ _ hi hj rfl).1 (by decide +kernel) (by decide +kernel)
  · exact ((hbefore j k _ _ hj hk rfl).2 (by decide +kernel) (by decide +kernel)).2 (.inl (by decide +kernel))

/-- Where forty bytes follow the text at the start of a name, a name that merely holds the text may stand before it. -/
theorem listed_start_far :
    let inside : Ref := ⟨"unrevert-1", "abc"⟩
    let start : Ref := ⟨"revert-3333333333333333333333333333333333333333", "def"⟩
    let c : Catalog := { branches := [inside, start] }
    start.Has (Starts (Text.trim "revert-")) ∧ ¬ start.Has (Equals (Text.trim "revert-")) ∧
      inside.Has (Within (Text.trim "revert-")) ∧ ¬ inside.Has (Starts (Text.trim "revert-")) ∧
      c.listed "revert-" = [⟨.branches, inside⟩, ⟨.branches, start⟩] := by
  intro inside start c
  have htext : Text.trim "revert-" = "revert-" := by decide
  have hranked : ranked "revert-" [inside, start] = [inside, start] := by
    rw [ranked_of_pairwise (by decide +kernel)]
    decide +kernel
  have hlisted : c.listed "revert-" = [⟨.branches, inside⟩, ⟨.branches, start⟩] := by
    have hnone : ranked "revert-" c.releases = [] := ranked_of_pairwise .nil
    rw [listed, htext, hranked, hnone]
    rfl
  rw [htext]
  exact ⟨by decide +kernel, by decide +kernel, by decide +kernel, by decide +kernel, hlisted⟩

end Catalog

end BenchCompare
