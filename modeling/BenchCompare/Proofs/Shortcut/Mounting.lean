import BenchCompare.Shortcut.Bindings
import Mathlib.Data.List.Nodup

/-!
# Chords that are mounted and unmounted

* `Bindings.Op`, `Bindings.step`, `Bindings.run`: chords are mounted and unmounted one after the other, from none on.
* `Bindings.Stands ops place side chord`: the last operation on a side is at this place and mounts the chord.
  `Stands.unique`: there is one such mount on a side.
* `Bindings.standing ops`: these mounts in order (`mem_standing_iff`), a side at most once (`nodup_standing`).
  `find?_standing_iff`: the first one with a property stands at the earliest place.
* `mounted_step` and `mounted_run`: what one operation does to the bindings, and what a history leaves.

Main statement: `run_first_mounted_wins`.
-/

namespace BenchCompare.Bindings

inductive Op where
  | mount (side : Side) (chord : Chord)
  | unmount (side : Side)
deriving DecidableEq, Repr

namespace Op

def side : Op → Side
  | mount side _ => side
  | unmount side => side

def mounts : Op → List (Side × Chord)
  | mount side chord => [(side, chord)]
  | unmount _ => []

theorem mem_mounts_iff {op : Op} {e : Side × Chord} : e ∈ op.mounts ↔ op = .mount e.1 e.2 := by
  cases op with
  | mount side chord =>
    rw [mounts, List.mem_singleton, Prod.ext_iff, mount.injEq]
    exact and_congr eq_comm eq_comm
  | unmount side => exact iff_of_false List.not_mem_nil nofun

end Op

/-- The bindings after one operation. -/
def step (b : Bindings) : Op → Bindings
  | .mount side chord => b.mount side chord
  | .unmount side => b.unmount side

def run (ops : List Op) : Bindings := ops.foldl step {}

/-- None of the operations concerns the side. -/
def Untouched (ops : List Op) (side : Side) : Prop := ∀ op ∈ ops, op.side ≠ side

instance (ops : List Op) (side : Side) : Decidable (Untouched ops side) := inferInstanceAs (Decidable (∀ _ ∈ _, _))

theorem untouched_cons_iff {op : Op} {ops : List Op} {side : Side} :
    Untouched (op :: ops) side ↔ op.side ≠ side ∧ Untouched ops side := List.forall_mem_cons

/-- The operation at this place mounts the chord on the side, and no later one concerns the side. -/
structure Stands (ops : List Op) (place : Nat) (side : Side) (chord : Chord) : Prop where
  mount : ops[place]? = some (.mount side chord)
  untouched : Untouched (ops.drop (place + 1)) side

section Stands

variable {op : Op} {ops : List Op} {place place' : Nat} {side : Side} {chord chord' : Chord}

theorem not_stands_nil : ¬ Stands [] place side chord := fun h => nomatch h.mount

theorem stands_cons_zero : Stands (op :: ops) 0 side chord ↔ op = .mount side chord ∧ Untouched ops side :=
  ⟨fun h => ⟨Option.some.inj h.mount, h.untouched⟩, fun ⟨hop, hops⟩ => ⟨congrArg some hop, hops⟩⟩

theorem stands_cons_succ : Stands (op :: ops) (place + 1) side chord ↔ Stands ops place side chord :=
  ⟨fun h => ⟨h.mount, h.untouched⟩, fun h => ⟨h.mount, h.untouched⟩⟩

theorem Stands.le (h : Stands ops place side chord) (h' : Stands ops place' side chord') : place' ≤ place := by
  by_contra hlt
  have hmem : Op.mount side chord' ∈ ops.drop (place + 1) := by
    refine List.mem_iff_getElem?.2 ⟨place' - (place + 1), ?_⟩
    rw [List.getElem?_drop, Nat.add_sub_cancel' (Nat.not_le.1 hlt), h'.mount]
  exact h.untouched _ hmem rfl

theorem Stands.unique (h : Stands ops place side chord) (h' : Stands ops place' side chord') :
    place = place' ∧ chord = chord' := by
  obtain rfl := Nat.le_antisymm (h'.le h) (h.le h')
  have hop := Option.some.inj (h.mount.symm.trans h'.mount)
  exact ⟨rfl, (Op.mount.inj hop).2⟩

end Stands

/-! ### The mounts that stand -/

/-- The mounts that no later operation replaces or takes back, in order. -/
def standing : List Op → List (Side × Chord)
  | [] => []
  | op :: ops => op.mounts.filter (fun e => Untouched ops e.1) ++ standing ops

section Standing

variable {ops : List Op} {e : Side × Chord}

theorem mem_filter_mounts_iff {op : Op} :
    e ∈ op.mounts.filter (fun e => Untouched ops e.1) ↔ Stands (op :: ops) 0 e.1 e.2 := by
  rw [List.mem_filter, Op.mem_mounts_iff, decide_eq_true_iff, stands_cons_zero]

theorem mem_standing_iff : e ∈ standing ops ↔ ∃ place, Stands ops place e.1 e.2 := by
  induction ops with
  | nil => exact iff_of_false List.not_mem_nil fun ⟨_, h⟩ => not_stands_nil h
  | cons op ops ih =>
    have hshift : (∃ place, Stands ops place e.1 e.2) ↔ ∃ place, Stands (op :: ops) (place + 1) e.1 e.2 :=
      exists_congr fun _ => stands_cons_succ.symm
    rw [standing, List.mem_append, mem_filter_mounts_iff, ih, hshift]
    exact Nat.or_exists_add_one (p := fun place => Stands (op :: ops) place e.1 e.2)

theorem nodup_standing (ops : List Op) : ((standing ops).map (·.1)).Nodup := by
  induction ops with
  | nil => exact List.nodup_nil
  | cons op ops ih =>
    rw [standing, List.map_append, List.nodup_append]
    refine ⟨?_, ih, ?_⟩
    · cases op with
      | mount side chord => exact (List.nodup_singleton side).sublist (List.filter_sublist.map _)
      | unmount side => exact List.nodup_nil
    · intro side hside side' hside' heq
      obtain ⟨e, he, rfl⟩ := List.mem_map.1 hside
      obtain ⟨e', he', rfl⟩ := List.mem_map.1 hside'
      obtain ⟨place, hstands⟩ := mem_standing_iff.1 he'
      have huntouched := (stands_cons_zero.1 (mem_filter_mounts_iff.1 he)).2
      exact huntouched _ (List.mem_of_getElem? hstands.mount) heq.symm

/-- The first standing mount with a property is the one at the earliest place. -/
theorem find?_standing_iff {p : Side × Chord → Bool} : (standing ops).find? p = some e ↔
    ∃ place, Stands ops place e.1 e.2 ∧ p e = true ∧
      ∀ place' e', Stands ops place' e'.1 e'.2 → p e' = true → place ≤ place' := by
  induction ops with
  | nil => exact iff_of_false (by simp [standing]) fun ⟨_, h, _⟩ => not_stands_nil h
  | cons op ops ih =>
    rw [standing, List.find?_append]
    cases hhead : (op.mounts.filter fun e => Untouched ops e.1).find? p with
    | some first =>
      have hfirst : Stands (op :: ops) 0 first.1 first.2 :=
        mem_filter_mounts_iff.1 (List.mem_of_find?_eq_some hhead)
      rw [Option.some_or, Option.some_inj]
      constructor
      · rintro rfl
        exact ⟨0, hfirst, List.find?_some hhead, fun _ _ _ _ => Nat.zero_le _⟩
      · rintro ⟨place, hstands, -, hleast⟩
        obtain rfl : place = 0 := Nat.le_zero.1 (hleast 0 first hfirst (List.find?_some hhead))
        have hop := Option.some.inj (hfirst.mount.symm.trans hstands.mount)
        exact Prod.ext_iff.2 (Op.mount.inj hop)
    | none =>
      -- nothing with the property stands at the head, so all places are one further on
      have hnone : ∀ e', Stands (op :: ops) 0 e'.1 e'.2 → ¬ p e' = true :=
        fun e' h => List.find?_eq_none.1 hhead e' (mem_filter_mounts_iff.2 h)
      rw [Option.none_or, ih]
      constructor
      · rintro ⟨place, hstands, hp, hleast⟩
        refine ⟨place + 1, stands_cons_succ.2 hstands, hp, ?_⟩
        rintro (_ | place') e' h' hp'
        · exact absurd hp' (hnone e' h')
        · exact Nat.succ_le_succ (hleast place' e' (stands_cons_succ.1 h') hp')
      · rintro ⟨_ | place, hstands, hp, hleast⟩
        · exact absurd hp (hnone e hstands)
        · refine ⟨place, stands_cons_succ.1 hstands, hp, fun place' e' h' hp' => ?_⟩
          exact Nat.le_of_succ_le_succ (hleast (place' + 1) e' (stands_cons_succ.2 h') hp')

end Standing

/-! ### Histories -/

theorem mounted_step (b : Bindings) (op : Op) :
    (b.step op).mounted = b.mounted.filter (·.1 != op.side) ++ op.mounts := by
  cases op with
  | mount side chord => rfl
  | unmount side => exact (List.append_nil _).symm

/-- Of what was there before, a history leaves what it does not touch. -/
theorem mounted_foldl_step (ops : List Op) (b : Bindings) :
    (ops.foldl step b).mounted = b.mounted.filter (fun e => Untouched ops e.1) ++ standing ops := by
  induction ops generalizing b with
  | nil => simp [standing, Untouched]
  | cons op ops ih =>
    rw [List.foldl_cons, ih, mounted_step, List.filter_append, List.filter_filter, List.append_assoc, standing]
    refine congrArg (· ++ _) (List.filter_congr fun e _ => ?_)
    rw [Bool.eq_iff_iff, Bool.and_eq_true, decide_eq_true_iff, decide_eq_true_iff, bne_iff_ne, untouched_cons_iff,
      and_comm, ne_comm]

theorem mounted_run (ops : List Op) : (run ops).mounted = standing ops := by
  rw [run, mounted_foldl_step]
  rfl

section Run

variable {ops : List Op} {side : Side} {chord : Chord}

theorem mem_mounted_run_iff : (side, chord) ∈ (run ops).mounted ↔ ∃ place, Stands ops place side chord := by
  rw [mounted_run, mem_standing_iff]

theorem chord?_run_iff : (run ops).chord? side = some chord ↔ ∃ place, Stands ops place side chord := by
  have hmem {chord : Chord} (h : (run ops).chord? side = some chord) : ∃ place, Stands ops place side chord := by
    obtain ⟨front, back, hmounted, -⟩ := List.lookup_eq_some_iff.1 h
    exact mem_mounted_run_iff.1 (hmounted ▸ List.mem_append_right front List.mem_cons_self)
  refine ⟨hmem, fun ⟨place, hstands⟩ => ?_⟩
  cases hchord : (run ops).chord? side with
  | none =>
    have hnone := List.lookup_eq_none_iff.1 hchord _ (mem_mounted_run_iff.2 ⟨place, hstands⟩)
    exact absurd hnone (by simp)
  | some chord' =>
    obtain ⟨place', hstands'⟩ := hmem hchord
    rw [(hstands.unique hstands').2]

theorem isMounted_run_iff : (run ops).isMounted side = true ↔ ∃ place chord, Stands ops place side chord := by
  rw [isMounted, List.any_eq_true]
  constructor
  · rintro ⟨⟨side', chord⟩, hmem, hside⟩
    obtain rfl : side' = side := beq_iff_eq.1 hside
    obtain ⟨place, hstands⟩ := mem_mounted_run_iff.1 hmem
    exact ⟨place, chord, hstands⟩
  · rintro ⟨place, chord, hstands⟩
    exact ⟨(side, chord), mem_mounted_run_iff.2 ⟨place, hstands⟩, beq_self_eq_true side⟩

theorem route_run_eq_some_iff {k : Keystroke} : (run ops).route k .dashboard = some side ↔
    ∃ place chord, Stands ops place side chord ∧ chord.Plays k ∧
      ∀ place' side' chord', Stands ops place' side' chord' → chord'.Plays k → place ≤ place' := by
  rw [route, mounted_run, Option.map_eq_some_iff]
  constructor
  · rintro ⟨e, hfind, rfl⟩
    obtain ⟨place, hstands, hplays, hleast⟩ := find?_standing_iff.1 hfind
    refine ⟨place, e.2, hstands, of_decide_eq_true hplays, fun place' side' chord' h' hplays' => ?_⟩
    exact hleast place' (side', chord') h' (decide_eq_true hplays')
  · rintro ⟨place, chord, hstands, hplays, hleast⟩
    refine ⟨(side, chord), find?_standing_iff.2 ⟨place, hstands, decide_eq_true hplays, ?_⟩, rfl⟩
    exact fun place' e' h' hplays' => hleast place' e'.1 e'.2 h' (of_decide_eq_true hplays')

theorem route_run_eq_none_iff {k : Keystroke} : (run ops).route k .dashboard = none ↔
    ∀ place side chord, Stands ops place side chord → ¬ chord.Plays k := by
  rw [route, Option.map_eq_none_iff, List.find?_eq_none]
  constructor
  · intro hnone place side chord hstands hplays
    exact hnone (side, chord) (mem_mounted_run_iff.2 ⟨place, hstands⟩) (decide_eq_true hplays)
  · rintro hnone ⟨side, chord⟩ hmem hplays
    obtain ⟨place, hstands⟩ := mem_mounted_run_iff.1 hmem
    exact hnone place side chord hstands (of_decide_eq_true hplays)

end Run

/-- **The sides are a map with the chord mounted first ahead.** After every list of operations, from no chord on, a side
has at most one chord, that of its last mount if no unmounting came later, and it is mounted exactly if there is one.
While a text is typed no keystroke opens a picker. Else it opens the one whose chord it plays and whose last mount is
the earliest, and none if it plays no chord. -/
theorem run_first_mounted_wins (ops : List Op) :
    let b := run ops
    (b.mounted.map (·.1)).Nodup ∧
    (∀ side chord, b.chord? side = some chord ↔ ∃ place, Stands ops place side chord) ∧
    (∀ side, b.isMounted side = true ↔ ∃ place chord, Stands ops place side chord) ∧
    (∀ k, b.route k .text = none) ∧
    (∀ k side, b.route k .dashboard = some side ↔ ∃ place chord, Stands ops place side chord ∧ chord.Plays k ∧
      ∀ place' side' chord', Stands ops place' side' chord' → chord'.Plays k → place ≤ place') ∧
    ∀ k, b.route k .dashboard = none ↔ ∀ place side chord, Stands ops place side chord → ¬ chord.Plays k := by
  intro b
  refine ⟨?_, fun _ _ => chord?_run_iff, fun _ => isMounted_run_iff, fun _ => rfl, fun _ _ => route_run_eq_some_iff,
    fun _ => route_run_eq_none_iff⟩
  rw [mounted_run]
  exact nodup_standing ops

/-- A side that is mounted again comes last. -/
example : (run [.mount .old { key := 'x' }, .mount .new { key := 'x' }, .mount .old { key := 'x' }]).route (.plain 'x')
    .dashboard = some .new := by decide

end BenchCompare.Bindings
