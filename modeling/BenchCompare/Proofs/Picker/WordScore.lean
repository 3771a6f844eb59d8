import BenchCompare.Proofs.Picker.Matching
import Mathlib.Algebra.Group.Nat.Defs

/-!
# Scores of 32 bits

Lengths have no bound in `matchScore`. Here they are cut to 32 bits, and scores are words that wrap around.

* `wordScore`, `Ref.wordScore`: how well a text matches a name or a ref. `toInt_wordScore`, `Ref.toInt_wordScore`: below
  `2 ^ 31` bytes these are the scores without a bound.
* `Ref.IsShort r`: name and hash have fewer bytes than that.
* `Catalog.listedByWords`: the entries that match by these scores, in their order.

Main statement: `listedByWords_eq`.
-/

namespace BenchCompare

/-! ### Words -/

theorem toInt_min (a b : Int32) : (min a b).toInt = min a.toInt b.toInt := by
  rw [Int.min_def]
  exact (apply_ite Int32.toInt (a ≤ b) a b).trans (if_congr Int32.le_iff_toInt_le rfl rfl)

theorem toInt_max (a b : Int32) : (max a b).toInt = max a.toInt b.toInt := by
  rw [Int.max_def]
  exact (apply_ite Int32.toInt (a ≤ b) b a).trans (if_congr Int32.le_iff_toInt_le rfl rfl)

/-! ### Scores -/

/-- `matchScore` with lengths that are cut to 32 bits. -/
def wordScore (text candidate : String) : Int32 :=
  let q := Text.lower text
  let c := Text.lower candidate
  if c = q then 100
  else if q.toList.isPrefixOf c.toList then
    50 - min (Int32.ofNat c.utf8ByteSize - Int32.ofNat q.utf8ByteSize) 40
  else if Text.occursIn q.toList c.toList then 10
  else 0

theorem Text.Starts.utf8ByteSize_le {text candidate : String} (h : Starts text candidate) :
    (lower text).utf8ByteSize ≤ (lower candidate).utf8ByteSize := by
  obtain ⟨rest, hrest⟩ := h
  have happend : lower candidate = lower text ++ String.ofList rest := by
    rw [← String.toList_inj, ← hrest, String.toList_append, String.toList_ofList]
  rw [happend, String.utf8ByteSize_append]
  exact Nat.le_add_right _ _

theorem toInt_wordScore (text : String) {candidate : String} (h : (Text.lower candidate).utf8ByteSize < 2 ^ 31) :
    (wordScore text candidate).toInt = matchScore text candidate := by
  rw [matchScore, wordScore]
  split_ifs with hequals hstarts
  · rfl
  · have hle := Text.Starts.utf8ByteSize_le (List.isPrefixOf_iff_prefix.1 hstarts)
    have hc := Int32.toInt_ofNat_of_lt h
    have hq := Int32.toInt_ofNat_of_lt (Nat.lt_of_le_of_lt hle h)
    generalize (Text.lower candidate).utf8ByteSize = c at *
    generalize (Text.lower text).utf8ByteSize = q at *
    -- neither difference leaves the range of 32 bits, so none of them wraps
    have hexcess : (Int32.ofNat c - Int32.ofNat q).toInt = c - q := by
      rw [Int32.toInt_sub, hc, hq, Int.bmod_eq_of_le (by omega) (by omega)]
    have hforty : (40 : Int32).toInt = 40 := rfl
    have hfifty : (50 : Int32).toInt = 50 := rfl
    rw [Int32.toInt_sub, toInt_min, hexcess, hforty, hfifty, Int.bmod_eq_of_le (by omega) (by omega)]
    omega
  · rfl
  · rfl

namespace Ref

/-- Name and hash have fewer than `2 ^ 31` bytes in lower case. -/
def IsShort (r : Ref) : Prop :=
  (Text.lower r.name).utf8ByteSize < 2 ^ 31 ∧ (Text.lower r.hash).utf8ByteSize < 2 ^ 31

def wordScore (text : String) (r : Ref) : Int32 :=
  if text = "" then 1 else max (BenchCompare.wordScore text r.name) (BenchCompare.wordScore text r.hash)

variable {text : String} {r r' : Ref}

theorem toInt_wordScore (h : r.IsShort) : (r.wordScore text).toInt = r.score text := by
  rw [wordScore, score]
  split_ifs
  · rfl
  · rw [toInt_max, BenchCompare.toInt_wordScore text h.1, BenchCompare.toInt_wordScore text h.2]
    omega

theorem wordScore_pos_iff (h : r.IsShort) : 0 < r.wordScore text ↔ 0 < r.score text := by
  have hzero : (0 : Int32).toInt = 0 := rfl
  rw [Int32.lt_iff_toInt_lt, toInt_wordScore h, hzero, Int.natCast_pos]

theorem wordScore_le_iff (h : r.IsShort) (h' : r'.IsShort) :
    r.wordScore text ≤ r'.wordScore text ↔ r.score text ≤ r'.score text := by
  rw [Int32.le_iff_toInt_le, toInt_wordScore h, toInt_wordScore h', Int.ofNat_le]

end Ref

/-! ### Lists -/

namespace Catalog

/-- The refs that match a text, the best word first. -/
def rankedByWords (text : String) (refs : List Ref) : List Ref :=
  (refs.filter fun r => 0 < r.wordScore text).mergeSort fun a b => b.wordScore text ≤ a.wordScore text

def listedByWords (c : Catalog) (typed : String) : List Entry :=
  let text := Text.trim typed
  (rankedByWords text c.branches).map (⟨.branches, ·⟩) ++ (rankedByWords text c.releases).map (⟨.releases, ·⟩)

theorem rankedByWords_eq (text : String) {refs : List Ref} (h : ∀ r ∈ refs, r.IsShort) :
    rankedByWords text refs = ranked text refs := by
  have hfilter : (refs.filter fun r => decide (0 < r.wordScore text)) =
      refs.filter fun r => decide (0 < r.score text) :=
    List.filter_congr fun r hr => decide_eq_decide.2 (Ref.wordScore_pos_iff (h r hr))
  have hshort : ∀ r ∈ refs.filter fun r => decide (0 < r.score text), r.IsShort := fun r hr =>
    h r (List.mem_filter.1 hr).1
  rw [rankedByWords, ranked_eq, hfilter]
  generalize (refs.filter fun r => decide (0 < r.score text)) = refs at hshort
  have hsort := List.map_mergeSort (f := id) (r := fun a b : Ref => decide (b.wordScore text ≤ a.wordScore text))
    (s := fun a b : Ref => decide (b.score text ≤ a.score text)) (l := refs) fun a ha b hb =>
      decide_eq_decide.2 (Ref.wordScore_le_iff (hshort b hb) (hshort a ha))
  rwa [List.map_id, List.map_id] at hsort

/-- **Scores of 32 bits list the same entries in the same order**, for every catalog of short names and hashes. -/
theorem listedByWords_eq {c : Catalog} (h : ∀ e ∈ c.entries, e.ref.IsShort) (typed : String) :
    c.listedByWords typed = c.listed typed := by
  have hbranches : ∀ r ∈ c.branches, r.IsShort := fun r hr =>
    h ⟨.branches, r⟩ (List.mem_append_left _ (List.mem_map_of_mem hr))
  have hreleases : ∀ r ∈ c.releases, r.IsShort := fun r hr =>
    h ⟨.releases, r⟩ (List.mem_append_right _ (List.mem_map_of_mem hr))
  rw [listedByWords, listed, rankedByWords_eq _ hbranches, rankedByWords_eq _ hreleases]

end Catalog

end BenchCompare
