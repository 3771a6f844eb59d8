import BenchCompare.AddressBar
import Mathlib.Data.List.Chain
import Mathlib.Data.List.DropRight

/-!
# The queries that an address bar has left

* `page_navigate`, `query_navigate`, `back_navigate`: what a navigation does to the parts of an address bar.
  `navigate_eq_self_iff`: only one to the query that is there does nothing.
* `AddressBar.run`: navigations one after the other. `query_run`: the last one counts.
* `changes query queries`: the navigations that change the query, each with the query that it leaves.
* `rtake_append_rtake`: the last elements of a list that grows at its end are kept up step by step. `back_run`: so are
  the queries that were left.
* `AddressBar.Alternates a`: no query stands beside itself in the history. `Alternates.run`: it never comes to.

Main statement: `run_history`.
-/

namespace BenchCompare

/-- Of the last elements and those that follow, the last ones are the last ones of all. -/
theorem rtake_append_rtake {α : Type} (l l' : List α) (n : Nat) : (l.rtake n ++ l').rtake n = (l ++ l').rtake n := by
  simp only [List.rtake_eq_reverse_take_reverse, List.reverse_append, List.reverse_reverse, List.take_append,
    List.take_take, Nat.min_eq_left (Nat.sub_le n _)]

theorem rtake_of_length_le {α : Type} {l : List α} {n : Nat} (h : l.length ≤ n) : l.rtake n = l := by
  rw [List.rtake, Nat.sub_eq_zero_of_le h, List.drop_zero]

theorem length_rtake {α : Type} (l : List α) (n : Nat) : (l.rtake n).length = min l.length n := by
  rw [List.rtake, List.length_drop]
  omega

namespace AddressBar

/-! ### One navigation -/

section Navigate

variable (a : AddressBar) (query : String)

@[simp] theorem query_navigate : (a.navigate query).query = query := by
  unfold navigate
  split
  · next h => exact h.symm
  · rfl

theorem navigate_self : a.navigate a.query = a := if_pos rfl

theorem navigate_eq_self_iff : a.navigate query = a ↔ query = a.query := by
  constructor
  · intro h
    rw [← h, query_navigate]
  · rintro rfl
    exact navigate_self a

theorem back_navigate : (a.navigate query).back =
    if query = a.query then a.back else (a.back ++ [a.query]).rtake limit := by
  unfold navigate
  split <;> rfl

theorem length_back_navigate (h : a.back.length ≤ limit) : (a.navigate query).back.length ≤ limit := by
  rw [back_navigate]
  split
  · exact h
  · rw [length_rtake]
    exact Nat.min_le_right _ _

end Navigate

/-! ### Navigations one after the other -/

def run (a : AddressBar) (queries : List String) : AddressBar := queries.foldl navigate a

theorem query_run (a : AddressBar) (queries : List String) : (a.run queries).query = queries.getLastD a.query := by
  induction queries generalizing a with
  | nil => rfl
  | cons query queries ih =>
    have hrest := ih (a.navigate query)
    rw [query_navigate] at hrest
    rw [List.getLastD_cons]
    exact hrest

/-- The navigations that change the query, each as the query that it leaves and the one that it goes to. -/
def changes (query : String) (queries : List String) : List (String × String) :=
  ((query :: queries).zip queries).filter fun change => change.1 ≠ change.2

theorem changes_cons (query next : String) (queries : List String) : changes query (next :: queries) =
    if next = query then changes query queries else (query, next) :: changes next queries := by
  unfold changes
  rw [List.zip_cons_cons]
  split
  · next h => rw [h, List.filter_cons_of_neg (by simp)]
  · next h => rw [List.filter_cons_of_pos (by simpa using Ne.symm h)]

theorem back_run {a : AddressBar} (h : a.back.length ≤ limit) (queries : List String) :
    (a.run queries).back = (a.back ++ (changes a.query queries).map (·.1)).rtake limit := by
  induction queries generalizing a with
  | nil =>
    rw [changes, List.zip_nil_right, List.filter_nil, List.map_nil, List.append_nil, rtake_of_length_le h]
    rfl
  | cons query queries ih =>
    have hrest := ih (length_back_navigate a query h)
    rw [query_navigate, back_navigate] at hrest
    rw [changes_cons]
    split
    · next heq =>
      rw [if_pos heq, heq] at hrest
      rw [← hrest, heq]
      rfl
    · next hne =>
      rw [if_neg hne, rtake_append_rtake, List.append_assoc, List.singleton_append] at hrest
      exact hrest

/-- No query stands beside itself in the history, the query that is shown included. -/
def Alternates (a : AddressBar) : Prop := (a.back ++ [a.query]).IsChain (· ≠ ·)

theorem Alternates.navigate {a : AddressBar} (h : a.Alternates) (query : String) : (a.navigate query).Alternates := by
  rw [Alternates, query_navigate, back_navigate]
  split
  · next heq => exact heq ▸ h
  · next hne =>
    -- the oldest query may go, and what is left is an end of the longer history
    have hlast : ([a.query] ++ [query]).IsChain (· ≠ ·) := List.isChain_pair.2 (Ne.symm hne)
    have hlong : (a.back ++ [a.query] ++ [query]).IsChain (· ≠ ·) :=
      List.IsChain.append_overlap h hlast (List.cons_ne_nil _ _)
    refine hlong.suffix ⟨(a.back ++ [a.query]).take ((a.back ++ [a.query]).length - limit), ?_⟩
    rw [List.rtake, ← List.append_assoc, List.take_append_drop]

theorem Alternates.run {a : AddressBar} (h : a.Alternates) (queries : List String) : (a.run queries).Alternates := by
  induction queries generalizing a with
  | nil => exact h
  | cons query queries ih => exact ih (h.navigate query)

/-! ### The main statement -/

/-- **An address bar keeps the last 64 queries that it has left.** It shows the query of the last navigation, or the one
that it was opened with, cleaned. Of the queries that were left by navigations to others it keeps the last 64, or all
of them, oldest first. Neighbours among them differ, and the newest differs from the query that is shown. A navigation
changes nothing exactly if it goes to the query that is shown. -/
theorem run_history (page raw : String) (queries : List String) :
    let start := ofQuery page raw
    let a := start.run queries
    let k := (changes start.query queries).length
    a.query = queries.getLastD start.query ∧
    a.back = ((changes start.query queries).map (·.1)).rtake (min k 64) ∧ a.back.length = min k 64 ∧
    (a.back ++ [a.query]).IsChain (· ≠ ·) ∧
    ∀ query, a.navigate query = a ↔ query = a.query := by
  intro start a k
  have hback : a.back = ((changes start.query queries).map (·.1)).rtake 64 := back_run (Nat.zero_le _) queries
  have hk : ((changes start.query queries).map (·.1)).length = k := List.length_map _
  refine ⟨query_run start queries, ?_, ?_, ?_, navigate_eq_self_iff a⟩
  · rw [hback, List.rtake, List.rtake, hk]
    congr 1
    omega
  · rw [hback, length_rtake, hk]
  · have hstart : start.Alternates := List.isChain_singleton _
    exact hstart.run queries

/-- The second of two equal navigations leaves nothing. -/
example : ((ofQuery "page" "?sha=a").run ["sha=b", "sha=b", "sha=a"]).back = ["sha=a", "sha=b"] := by decide +kernel

end AddressBar

end BenchCompare
