import BenchCompare.Proofs.Picker.Highlight
import Mathlib.Data.Nat.ModEq

/-!
# Moving through the list

The arrows move the highlight through the list and around its ends, counted modulo the length of the list.

* `Arrow`, `Arrow.event`, `Arrow.move`, `Arrow.shift`: the two arrows, what one of them does to a picker and to a
  highlight, and the step that it makes.
* `netDowns arrows`: how often arrows go down more than up.
* `run_arrows`: arrows change nothing but the highlight. `exists_move_some`, `exists_moves_some`: from a place in the
  list, one arrow and any number of them lead to the place that their steps add up to.
* `existsUnique_add_mod`: going on by one place, every place of the list comes once.

Main statement: `confirm_run_arrows`.
-/

namespace BenchCompare.Picker

inductive Arrow where
  | up | down
deriving DecidableEq

/-- How often the arrows go down more than up. -/
def netDowns (arrows : List Arrow) : Int := arrows.count .down - arrows.count .up

namespace Arrow

def event (c : Catalog) : Arrow → Event
  | up => .moveUp (some c)
  | down => .moveDown (some c)

/-- What an arrow does to the highlight in a list of `n` entries. -/
def move (n : Nat) (highlight : Option Nat) : Arrow → Option Nat
  | up => above n highlight
  | down => below n highlight

def shift : Arrow → Int
  | up => -1
  | down => 1

theorem netDowns_cons (a : Arrow) (arrows : List Arrow) : netDowns (a :: arrows) = a.shift + netDowns arrows := by
  cases a <;> simp [netDowns, shift] <;> omega

end Arrow

open Arrow (netDowns_cons)

/-! ### The highlight after arrows -/

section Moves

variable {n i : Nat}

/-- From a place in the list, an arrow leads to the next place in its direction, around the ends of the list. -/
theorem exists_move_some (h : i < n) (a : Arrow) :
    ∃ j, a.move n (some i) = some j ∧ j < n ∧ (j : Int) = (i + a.shift) % n := by
  have hn : n ≠ 0 := Nat.ne_zero_of_lt h
  cases a with
  | down =>
    refine ⟨(i + 1) % n, if_neg hn, Nat.mod_lt _ (Nat.pos_of_ne_zero hn), ?_⟩
    rw [Arrow.shift, Int.natCast_mod, Int.natCast_add, Int.natCast_one]
  | up =>
    refine ⟨(i + n - 1) % n, if_neg hn, Nat.mod_lt _ (Nat.pos_of_ne_zero hn), ?_⟩
    have hcast : ((i + n - 1 : Nat) : Int) = i + (-1) + n := by omega
    rw [Arrow.shift, Int.natCast_mod, hcast, Int.add_emod_right]

/-- Without a highlight, Down begins at the first entry and Up at the last one. -/
theorem exists_move_none (h : 0 < n) (a : Arrow) :
    ∃ j, a.move n none = some j ∧ j < n ∧ (j : Int) = (if a = .down then a.shift - 1 else a.shift) % n := by
  have hn : n ≠ 0 := Nat.ne_of_gt h
  cases a with
  | down => exact ⟨0, if_neg hn, h, rfl⟩
  | up =>
    refine ⟨n - 1, if_neg hn, Nat.sub_lt h Nat.one_pos, ?_⟩
    have hcast : ((n - 1 : Nat) : Int) = -1 + n := by omega
    rw [if_neg (by decide), Arrow.shift, ← Int.add_emod_right, ← hcast, Int.emod_eq_of_lt (by omega) (by omega)]

theorem exists_moves_some (h : i < n) (arrows : List Arrow) :
    ∃ j, arrows.foldl (Arrow.move n) (some i) = some j ∧ j < n ∧ (j : Int) = (i + netDowns arrows) % n := by
  induction arrows generalizing i with
  | nil =>
    have hi : (i : Int) % n = i := Int.emod_eq_of_lt (by omega) (by omega)
    exact ⟨i, rfl, h, by simp [netDowns, hi]⟩
  | cons a arrows ih =>
    obtain ⟨j, hj, hlt, hmod⟩ := exists_move_some h a
    obtain ⟨k, hk, hklt, hkmod⟩ := ih hlt
    refine ⟨k, ?_, hklt, ?_⟩
    · rw [List.foldl_cons, hj, hk]
    · rw [hkmod, hmod, netDowns_cons, Int.emod_add_emod, Int.add_assoc]

/-- The first arrow finds no highlight, and the others add up. -/
theorem exists_moves_none (h : 0 < n) (first : Arrow) (rest : List Arrow) :
    ∃ j, (first :: rest).foldl (Arrow.move n) none = some j ∧ j < n ∧
      (j : Int) = (if first = .down then netDowns (first :: rest) - 1 else netDowns (first :: rest)) % n := by
  obtain ⟨i, hi, hlt, hmod⟩ := exists_move_none h first
  obtain ⟨j, hj, hjlt, hjmod⟩ := exists_moves_some hlt rest
  refine ⟨j, ?_, hjlt, ?_⟩
  · rw [List.foldl_cons, hi, hj]
  · rw [hjmod, hmod, netDowns_cons, Int.emod_add_emod]
    split
    · have hshift : first.shift - 1 + netDowns rest = first.shift + netDowns rest - 1 := by omega
      rw [hshift]
    · rfl

theorem moves_downs (h : i < n) (k : Nat) :
    (List.replicate k Arrow.down).foldl (Arrow.move n) (some i) = some ((i + k) % n) := by
  obtain ⟨j, hj, -, hmod⟩ := exists_moves_some h (List.replicate k .down)
  have hdowns : netDowns (List.replicate k .down) = k := by simp [netDowns, List.count_replicate]
  rw [hdowns] at hmod
  rw [hj]
  exact congrArg some (by exact_mod_cast hmod)

/-- Going on by one place at a time from any place, every place of the list comes once in a round. -/
theorem existsUnique_add_mod (i : Nat) {j : Nat} (hj : j < n) : ∃! k, k < n ∧ (i + k) % n = j := by
  have hn : 0 < n := Nat.zero_lt_of_lt hj
  have hadd : (i + (j + (n - i % n)) % n) % n = j := by
    have hsum : i + (j + (n - i % n)) = j + n * (i / n + 1) := by
      have hdiv := Nat.div_add_mod i n
      have hlt := Nat.mod_lt i hn
      rw [Nat.mul_add, Nat.mul_one]
      omega
    rw [Nat.add_mod_mod, hsum, Nat.add_mul_mod_self_left, Nat.mod_eq_of_lt hj]
  have hlt : (j + (n - i % n)) % n < n := Nat.mod_lt _ hn
  refine ⟨_, ⟨hlt, hadd⟩, ?_⟩
  rintro k ⟨hk, hkj⟩
  have hmod : k ≡ (j + (n - i % n)) % n [MOD n] := Nat.ModEq.add_left_cancel' i (hkj.trans hadd.symm)
  exact hmod.eq_of_lt_of_lt hk hlt

end Moves

/-! ### The picker after arrows -/

section Run

variable (p : Picker) (c : Catalog)

theorem step_event (a : Arrow) :
    p.step (a.event c) = { p with highlight := a.move (c.listed p.input).length p.highlight } := by
  cases a <;> rfl

theorem run_arrows (arrows : List Arrow) : p.run (arrows.map (Arrow.event c)) =
    { p with highlight := arrows.foldl (Arrow.move (c.listed p.input).length) p.highlight } := by
  induction arrows generalizing p with
  | nil => rfl
  | cons a arrows ih =>
    calc p.run ((a :: arrows).map (Arrow.event c)) = (p.step (a.event c)).run (arrows.map (Arrow.event c)) := rfl
      _ = _ := by rw [ih, step_event]; rfl

end Run

/-! ### The main statement -/

/-- **The arrows lead to the entry that Enter chooses.** Let an open picker without a highlight have entries in its
list, and let arrows follow. The highlight is at the place that they add up to, modulo the length of the list and
counted from the first entry for Down and from behind the last one for Up. Enter chooses the entry at that place. As
many Downs as there are entries come to every entry once and back to this one. -/
theorem confirm_run_arrows {p : Picker} {c : Catalog} (first : Arrow) (rest : List Arrow) (ho : p.isOpen = true)
    (hh : p.highlight = none) (hn : 1 ≤ (c.listed p.input).length) :
    let entries := c.listed p.input
    let n := entries.length
    let arrows := first :: rest
    let d : Int := arrows.count .down - arrows.count .up
    let q := p.run (arrows.map (Arrow.event c))
    let downs (k : Nat) := q.run ((List.replicate k .down).map (Arrow.event c))
    ∃ i e, q.highlight = some i ∧ (i : Int) = (if first = .down then d - 1 else d) % n ∧ entries[i]? = some e ∧
      q.confirm (some c) =
        ({ p with isOpen := false, input := e.ref.name, label := e.ref.name, value := e.ref.hash, highlight := none },
          some e.ref.hash) ∧
      (downs n).highlight = some i ∧ ∀ j < n, ∃! k, k < n ∧ (downs (k + 1)).highlight = some j := by
  intro entries n arrows d q downs
  obtain ⟨i, hi, hlt, hmod⟩ := exists_moves_none hn first rest
  have hq : q = { p with highlight := some i } := by
    rw [← hi, ← hh]
    exact run_arrows p c arrows
  have hentry : entries[i]? = some entries[i] := List.getElem?_eq_getElem hlt
  have hpick : q.enterPick (some c) = .entry entries[i].ref := by
    have hhighlighted : q.highlighted? (some c) = some entries[i] := by
      rw [hq]
      exact hentry
    rw [enterPick, hhighlighted]
  have hdowns (k : Nat) : (downs k).highlight = some ((i + k) % n) := by
    have hrun : (downs k).highlight = (List.replicate k Arrow.down).foldl (Arrow.move n) (some i) := by
      show (q.run _).highlight = _
      rw [run_arrows, hq]
    rw [hrun, moves_downs hlt]
  refine ⟨i, entries[i], ?_, hmod, hentry, ?_, ?_, ?_⟩
  · rw [hq]
  · rw [confirm_eq_enterPick (by rw [hq]; exact ho), hpick, hq]
    rfl
  · rw [hdowns, Nat.add_mod_right, Nat.mod_eq_of_lt hlt]
  · intro j hj
    obtain ⟨k, ⟨hk, hkj⟩, hunique⟩ := existsUnique_add_mod (i + 1) hj
    have hplace (k : Nat) : (downs (k + 1)).highlight = some j ↔ (i + 1 + k) % n = j := by
      rw [hdowns, Option.some_inj, Nat.add_assoc i 1 k, Nat.add_comm 1 k]
    exact ⟨k, ⟨hk, (hplace k).2 hkj⟩, fun k' hk' => hunique k' ⟨hk'.1, (hplace k').1 hk'.2⟩⟩

/-- Around both ends of a list of two entries, back to the first one. -/
theorem confirm_run_arrows_around :
    let c : Catalog := { branches := [⟨"main", "abc"⟩], releases := [⟨"v1", "def"⟩] }
    let p : Picker := { side := .old, isOpen := true }
    let q := p.run ([Arrow.up, .down, .up, .up].map (Arrow.event c))
    p.isOpen = true ∧ p.highlight = none ∧ 1 ≤ (c.listed p.input).length ∧
      q.highlight = some 0 ∧ (q.confirm (some c)).2 = some "abc" := by
  intro c p q
  have hn : 1 ≤ (c.listed p.input).length := by decide +kernel
  obtain ⟨i, e, hq, hmod, hentry, hconfirm, -⟩ := confirm_run_arrows (p := p) .up [.down, .up, .up] rfl rfl hn
  obtain rfl : i = 0 := Int.ofNat_inj.1 (hmod.trans (by decide +kernel))
  have hmain : (c.listed p.input)[0]? = some ⟨.branches, ⟨"main", "abc"⟩⟩ := by decide +kernel
  obtain rfl := Option.some.inj (hmain.symm.trans hentry)
  exact ⟨rfl, rfl, hn, hq, congrArg Prod.snd hconfirm⟩

end BenchCompare.Picker
