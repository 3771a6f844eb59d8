import BenchCompare.Picker
import Mathlib.Data.List.Perm.Basic

/-!
# The list of a picker

An entry together with its place in the catalog stands for one row of the list, so that entries which come twice are
told apart.

* `pairwise_mergeSort_ties`: sorting keeps elements that tie in the order in which they come.
* `Entry.Matches text e`: the entry belongs to the list for a text.
* `Entry.Precedes text a b`: the order of the list. Branches stand before releases, then the better score counts, then
  the place in the catalog. Two lists of the same entries in this order are equal (`eq_of_perm_of_precedes`).
* `Catalog.rankedPlaces`: what a picker does with the entries of one group, places included.

Main statement: `listed_ranked`.
-/

namespace BenchCompare

/-! ### Sorting in the presence of ties -/

/-- **Sorting keeps ties in order.** What holds of any two elements of a list in their order holds, after sorting, of
any two that tie. -/
theorem pairwise_mergeSort_ties {α : Type} {le : α → α → Bool} {r : α → α → Prop}
    (htrans : ∀ a b c, le a b = true → le b c = true → le a c = true)
    (htotal : ∀ a b, (le a b || le b a) = true) {l : List α} (h : l.Pairwise r) :
    (l.mergeSort le).Pairwise fun a b => le a b = true ∧ (le b a = true → r a b) := by
  -- each element carries its place in `l`, and the sort breaks ties by these places
  have hsorted := List.pairwise_mergeSort (List.zipIdxLE_trans htrans) (List.zipIdxLE_total htotal) l.zipIdx
  have hperm := List.mergeSort_perm l.zipIdx (List.zipIdxLE le)
  have hnodup : (l.zipIdx.mergeSort (List.zipIdxLE le)).Pairwise fun a b => a.2 ≠ b.2 := by
    refine List.pairwise_map.1 (List.nodup_iff_pairwise_ne.1 ((hperm.map _).nodup_iff.2 ?_))
    rw [List.zipIdx_map_snd]
    exact List.nodup_range'
  rw [← List.mergeSort_zipIdx, List.pairwise_map]
  refine (List.Pairwise.and_mem.1 (hsorted.and hnodup)).imp ?_
  rintro ⟨a, i⟩ ⟨b, j⟩ ⟨ha, hb, hle, hne⟩
  simp only [List.zipIdxLE] at hle
  have hab : le a b = true := by
    by_contra hab
    simp [hab] at hle
  refine ⟨hab, fun hba => ?_⟩
  simp only [hab, hba, if_true, decide_eq_true_eq] at hle
  have hlt : i < j := Nat.lt_of_le_of_ne hle hne
  have hi := List.mk_mem_zipIdx_iff_getElem?.1 (hperm.mem_iff.1 ha)
  have hj := List.mk_mem_zipIdx_iff_getElem?.1 (hperm.mem_iff.1 hb)
  obtain ⟨hil, rfl⟩ := List.getElem?_eq_some_iff.1 hi
  obtain ⟨hjl, rfl⟩ := List.getElem?_eq_some_iff.1 hj
  exact List.pairwise_iff_getElem.1 h i j hil hjl hlt

theorem pairwise_lt_zipIdx {α : Type} (l : List α) (first : Nat) :
    (l.zipIdx first).Pairwise (·.2 < ·.2) := by
  have h : ((l.zipIdx first).map (·.2)).Pairwise (· < ·) := by
    rw [List.zipIdx_map_snd]
    exact List.pairwise_lt_range'
  exact List.pairwise_map.1 h

/-! ### Entries with their places -/

def Group.rank : Group → Nat
  | .branches => 0 | .releases => 1

namespace Entry

/-- The entry belongs to the list for a text: every entry for the empty text, else an entry whose name or hash scores
above zero. -/
def Matches (text : String) (e : Entry) : Prop :=
  text = "" ∨ 0 < matchScore text e.ref.name ∨ 0 < matchScore text e.ref.hash

theorem matches_iff {text : String} {e : Entry} : e.Matches text ↔ 0 < e.ref.score text := by
  by_cases h : text = ""
  · simp [Matches, Ref.score, h]
  · simp only [Matches, Ref.score, h, false_or, if_false]
    omega

instance (text : String) (e : Entry) : Decidable (e.Matches text) := decidable_of_iff _ matches_iff.symm

/-- The entry `a.1` at the place `a.2` of the catalog stands before the entry `b.1` at the place `b.2` in the list for
a text. -/
def Precedes (text : String) (a b : Entry × Nat) : Prop :=
  a.1.group.rank < b.1.group.rank ∨
    a.1.group = b.1.group ∧
      (b.1.ref.score text < a.1.ref.score text ∨ a.1.ref.score text = b.1.ref.score text ∧ a.2 < b.2)

instance (text : String) (a b : Entry × Nat) : Decidable (Precedes text a b) := inferInstanceAs (Decidable (_ ∨ _))

theorem Precedes.asymm {text : String} {a b : Entry × Nat} (h : Precedes text a b) : ¬ Precedes text b a := by
  rintro (hr | ⟨hg, hs⟩)
  · rcases h with hr' | ⟨hg', -⟩
    · omega
    · rw [hg'] at hr
      exact Nat.lt_irrefl _ hr
  · rcases h with hr' | ⟨-, hs'⟩
    · rw [hg] at hr'
      exact Nat.lt_irrefl _ hr'
    · omega

/-- The order of the list leaves no choice. -/
theorem eq_of_perm_of_precedes {text : String} {l l' : List (Entry × Nat)} (hperm : l.Perm l')
    (h : l.Pairwise (Precedes text)) (h' : l'.Pairwise (Precedes text)) : l = l' :=
  hperm.eq_of_pairwise (fun _ _ _ _ hab hba => absurd hba hab.asymm) h h'

end Entry

namespace Catalog

open Entry (Matches Precedes)

/-! ### The entries of one group -/

section Group

variable (text : String)

/-- The entries that match, with their places, the best score first. -/
def rankedPlaces (places : List (Entry × Nat)) : List (Entry × Nat) :=
  (places.filter fun p => p.1.Matches text).mergeSort fun a b => decide (b.1.ref.score text ≤ a.1.ref.score text)

theorem perm_rankedPlaces (places : List (Entry × Nat)) :
    (rankedPlaces text places).Perm (places.filter fun p => p.1.Matches text) :=
  List.mergeSort_perm _ _

/-- The scores are only looked up once, for the filter and for the sort. -/
theorem ranked_eq (refs : List Ref) : ranked text refs =
    (refs.filter fun r => 0 < r.score text).mergeSort fun a b => decide (b.score text ≤ a.score text) := by
  rw [ranked, List.filter_map, ← List.map_mergeSort (f := fun r : Ref => (r.score text, r)) fun _ _ _ _ => rfl,
    List.map_map]
  exact List.map_id _

theorem map_ranked (g : Group) (refs : List Ref) (first : Nat) :
    (ranked text refs).map (Entry.mk g) =
      (rankedPlaces text ((refs.map (Entry.mk g)).zipIdx first)).map (·.1) := by
  -- both are the matching entries of the group, sorted by their scores
  let le (a b : Entry) : Bool := decide (b.ref.score text ≤ a.ref.score text)
  have hleft : (ranked text refs).map (Entry.mk g) =
      ((refs.map (Entry.mk g)).filter fun e => e.Matches text).mergeSort le := by
    rw [ranked_eq, List.map_mergeSort (s := le) (f := Entry.mk g) fun _ _ _ _ => rfl, List.filter_map]
    have hfilter : (refs.filter fun r => decide (0 < r.score text)) =
        refs.filter ((fun e => decide (e.Matches text)) ∘ Entry.mk g) := by
      refine List.filter_congr fun r _ => ?_
      rw [Function.comp_apply, decide_eq_decide, Entry.matches_iff]
    rw [hfilter]
  have hright : (rankedPlaces text ((refs.map (Entry.mk g)).zipIdx first)).map (·.1) =
      ((refs.map (Entry.mk g)).filter fun e => e.Matches text).mergeSort le := by
    have hfst := List.zipIdx_map_fst first (refs.map (Entry.mk g))
    rw [rankedPlaces, List.map_mergeSort (s := le) (f := Prod.fst) fun _ _ _ _ => rfl]
    conv_rhs => rw [← hfst, List.filter_map, Function.comp_def]
  rw [hleft, hright]

/-- In one group the score counts, and the place among equal scores. -/
theorem pairwise_rankedPlaces {g : Group} {places : List (Entry × Nat)} (hg : ∀ p ∈ places, p.1.group = g)
    (h : places.Pairwise (·.2 < ·.2)) : (rankedPlaces text places).Pairwise (Precedes text) := by
  let le (a b : Entry × Nat) : Bool := decide (b.1.ref.score text ≤ a.1.ref.score text)
  have htrans : ∀ a b c, le a b = true → le b c = true → le a c = true := by
    intro a b c hab hbc
    simp only [le, decide_eq_true_eq] at hab hbc ⊢
    omega
  have htotal : ∀ a b, (le a b || le b a) = true := by
    intro a b
    simp only [le, Bool.or_eq_true, decide_eq_true_eq]
    omega
  have hties : (rankedPlaces text places).Pairwise fun a b => le a b = true ∧ (le b a = true → a.2 < b.2) :=
    pairwise_mergeSort_ties htrans htotal (h.sublist List.filter_sublist)
  refine (List.Pairwise.and_mem.1 hties).imp ?_
  rintro a b ⟨ha, hb, hle, hlt⟩
  have hgroup : ∀ p ∈ rankedPlaces text places, p.1.group = g := fun p hp =>
    hg p (List.mem_filter.1 ((perm_rankedPlaces text places).mem_iff.1 hp)).1
  simp only [le, decide_eq_true_eq] at hle hlt
  refine .inr ⟨(hgroup a ha).trans (hgroup b hb).symm, ?_⟩
  rcases Nat.lt_or_eq_of_le hle with hscore | hscore
  · exact .inl hscore
  · exact .inr ⟨hscore.symm, hlt (Nat.le_of_eq hscore.symm)⟩

end Group

/-! ### The whole list -/

/-- The places of the list for a text, branches before releases. -/
def listedPlaces (c : Catalog) (text : String) : List (Entry × Nat) :=
  rankedPlaces text ((c.branches.map (Entry.mk .branches)).zipIdx) ++
    rankedPlaces text ((c.releases.map (Entry.mk .releases)).zipIdx c.branches.length)

section Listed

variable (c : Catalog)

theorem zipIdx_entries : c.entries.zipIdx = (c.branches.map (Entry.mk .branches)).zipIdx ++
    (c.releases.map (Entry.mk .releases)).zipIdx c.branches.length := by
  rw [entries, List.zipIdx_append, List.length_map, Nat.zero_add]

theorem listed_eq_map_places (typed : String) : c.listed typed = (c.listedPlaces (Text.trim typed)).map (·.1) := by
  rw [listed, listedPlaces, List.map_append, map_ranked, map_ranked]

variable (text : String)

theorem perm_listedPlaces :
    (c.listedPlaces text).Perm (c.entries.zipIdx.filter fun p => p.1.Matches text) := by
  rw [zipIdx_entries, List.filter_append]
  exact (perm_rankedPlaces _ _).append (perm_rankedPlaces _ _)

theorem group_of_mem_zipIdx {g : Group} {refs : List Ref} {first : Nat} {p : Entry × Nat}
    (h : p ∈ (refs.map (Entry.mk g)).zipIdx first) : p.1.group = g := by
  have hfst := List.mem_map_of_mem (f := Prod.fst) h
  rw [List.zipIdx_map_fst] at hfst
  obtain ⟨r, -, hr⟩ := List.mem_map.1 hfst
  rw [← hr]

theorem pairwise_listedPlaces : (c.listedPlaces text).Pairwise (Precedes text) := by
  refine List.pairwise_append.2 ⟨?_, ?_, ?_⟩
  · exact pairwise_rankedPlaces text (fun p hp => group_of_mem_zipIdx hp) (pairwise_lt_zipIdx _ _)
  · exact pairwise_rankedPlaces text (fun p hp => group_of_mem_zipIdx hp) (pairwise_lt_zipIdx _ _)
  · intro a ha b hb
    have hga := group_of_mem_zipIdx (List.mem_filter.1 ((perm_rankedPlaces _ _).mem_iff.1 ha)).1
    have hgb := group_of_mem_zipIdx (List.mem_filter.1 ((perm_rankedPlaces _ _).mem_iff.1 hb)).1
    refine .inl ?_
    rw [hga, hgb]
    decide

/-- All scores are equal for the empty text. -/
theorem pairwise_zipIdx_of_blank {text : String} (h : text = "") : c.entries.zipIdx.Pairwise (Precedes text) := by
  have hscore : ∀ r : Ref, r.score text = 1 := fun r => if_pos h
  have hgroups : c.entries.Pairwise fun a b => a.group.rank < b.group.rank ∨ a.group = b.group := by
    refine List.pairwise_append.2 ⟨?_, ?_, ?_⟩
    · exact List.pairwise_map.2 (List.pairwise_of_forall fun _ _ => .inr rfl)
    · exact List.pairwise_map.2 (List.pairwise_of_forall fun _ _ => .inr rfl)
    · intro a ha b hb
      obtain ⟨r, -, rfl⟩ := List.mem_map.1 ha
      obtain ⟨r', -, rfl⟩ := List.mem_map.1 hb
      exact .inl Nat.zero_lt_one
  have hzip : c.entries.zipIdx.Pairwise fun a b => a.1.group.rank < b.1.group.rank ∨ a.1.group = b.1.group := by
    rw [← List.zipIdx_map_fst 0 c.entries] at hgroups
    exact List.pairwise_map.1 hgroups
  refine (hzip.and (pairwise_lt_zipIdx _ _)).imp ?_
  rintro a b ⟨hrank | hgroup, hlt⟩
  · exact .inl hrank
  · exact .inr ⟨hgroup, .inr ⟨by rw [hscore, hscore], hlt⟩⟩

theorem listed_of_blank {typed : String} (h : Text.trim typed = "") : c.listed typed = c.entries := by
  have hall : (c.entries.zipIdx.filter fun p => p.1.Matches (Text.trim typed)) = c.entries.zipIdx :=
    List.filter_eq_self.2 fun p _ => by simp [Matches, h]
  have hplaces : c.listedPlaces (Text.trim typed) = c.entries.zipIdx :=
    Entry.eq_of_perm_of_precedes ((c.perm_listedPlaces _).trans (.of_eq hall)) (c.pairwise_listedPlaces _)
      (c.pairwise_zipIdx_of_blank h)
  rw [listed_eq_map_places, hplaces, List.zipIdx_map_fst]

end Listed

/-- **The list of a picker is the ranking of the entries that match.** The places of the catalog whose entries match
the trimmed text stand in the list once each: branches before releases, in each group the better score first, and
equal scores in the order of the catalog. This leaves one list only. For a blank text it is the whole catalog as it
stands. -/
theorem listed_ranked (c : Catalog) (typed : String) :
    let text := Text.trim typed
    let IsRanking (places : List (Entry × Nat)) : Prop :=
      places.Perm (c.entries.zipIdx.filter fun p => p.1.Matches text) ∧ places.Pairwise (Precedes text)
    (∃ places, IsRanking places ∧ c.listed typed = places.map (·.1)) ∧
    (∀ places, IsRanking places → c.listed typed = places.map (·.1)) ∧
    (text = "" → c.listed typed = c.entries) := by
  intro text IsRanking
  have hranking : IsRanking (c.listedPlaces text) := ⟨c.perm_listedPlaces text, c.pairwise_listedPlaces text⟩
  have hlisted : c.listed typed = (c.listedPlaces text).map (·.1) := c.listed_eq_map_places typed
  have honly (places : List (Entry × Nat)) (h : IsRanking places) : c.listed typed = places.map (·.1) := by
    rw [hlisted, Entry.eq_of_perm_of_precedes (h.1.trans hranking.1.symm) h.2 hranking.2]
  exact ⟨⟨_, hranking, hlisted⟩, honly, c.listed_of_blank⟩

/-- An entry that comes twice is listed twice, both where a text is typed and where nothing but blank space is. The text
leaves `dev` and `v1` out, puts the whole name before the longer one, and keeps the releases behind the branches. -/
theorem listed_ranked_main :
    let main : Ref := ⟨"main", "123"⟩
    let mainline : Ref := ⟨"mainline", "abc"⟩
    let c : Catalog := {
      branches := [mainline, ⟨"dev", "def"⟩, main, mainline], releases := [⟨"v1", "456"⟩, ⟨"Main", "789"⟩] }
    c.listed " main " =
        [⟨.branches, main⟩, ⟨.branches, mainline⟩, ⟨.branches, mainline⟩, ⟨.releases, ⟨"Main", "789"⟩⟩] ∧
      Text.trim " \t" = "" ∧ c.listed " \t" = c.entries := by
  intro main mainline c
  have htext : Text.trim " main " = "main" := by decide
  have hblank : Text.trim " \t" = "" := by decide
  refine ⟨?_, hblank, (listed_ranked c " \t").2.2 hblank⟩
  have honly := (listed_ranked c " main ").2.1
  simp only [htext] at honly
  exact honly
    [(⟨.branches, main⟩, 2), (⟨.branches, mainline⟩, 0), (⟨.branches, mainline⟩, 3), (⟨.releases, ⟨"Main", "789"⟩⟩, 5)]
    ⟨by decide +kernel, by decide +kernel⟩

end Catalog

end BenchCompare
