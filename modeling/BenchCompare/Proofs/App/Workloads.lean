import BenchCompare.Proofs.App.Highlight
import BenchCompare.Proofs.App.Opening
import BenchCompare.Proofs.Picker.Arrows
import Mathlib.Data.List.Nodup
import Mathlib.Logic.Function.Iterate

/-!
# Going through the workloads

A key moves a side to the workload that comes after its own in the list of the configuration, around the end of the
list. The place of a name is the first one where it stands.

* `next names name`: the name after this one. `nextWorkload?_of_notMem`, `nextWorkload?_block`: the first name if it is
  not listed, and its neighbour if it is one of the different names that the list begins with.
* `ComesAround names current`: after the names that the list begins with, it has no others. If `current` is listed, the
  names after them begin with the first one again.
* `forall_taken_iff`: going on from `current` comes to all names, in as many steps as the list is long, exactly then.
* `Cycles`, `Cycles.params_run`: presses of the key change the workload of one side and nothing else among the inputs.

Main statement: `workload_run_presses`.
-/

namespace BenchCompare

@[simp] theorem Params.workload_apply_workload_self (p : Params) (side : Side) (w : String) :
    (p.apply (.workload side w)).workload side = w := by
  cases side <;> rfl

theorem Params.workload_apply_workload_of_ne (p : Params) {side side' : Side} (h : side' ≠ side) (w : String) :
    (p.apply (.workload side w)).workload side' = p.workload side' := by
  cases side <;> cases side' <;> first | rfl | exact absurd rfl h

theorem Params.apply_workload_apply_workload (p : Params) (side : Side) (w w' : String) :
    (p.apply (.workload side w)).apply (.workload side w') = p.apply (.workload side w') := by
  cases side <;> rfl

theorem Params.apply_workload_self (p : Params) (side : Side) : p.apply (.workload side (p.workload side)) = p := by
  cases side <;> rfl

namespace App

/-! ### Names in a list -/

/-- The name after this one, the first one after the last. -/
def next (names : List String) (name : String) : String := (nextWorkload? names name).getD name

theorem nextWorkload?_eq_next {names : List String} (hne : names ≠ []) (name : String) :
    nextWorkload? names name = some (next names name) := by
  have hpos : 0 < names.length := List.length_pos_of_ne_nil hne
  obtain ⟨w, hw⟩ : ∃ w, nextWorkload? names name = some w := by
    unfold nextWorkload?
    split
    · exact ⟨_, List.getElem?_eq_getElem (Nat.mod_lt _ hpos)⟩
    · exact ⟨_, List.head?_eq_some_head hne⟩
  rw [next, hw, Option.getD_some]

theorem nextWorkload?_of_notMem {names : List String} {name : String} (h : name ∉ names) :
    nextWorkload? names name = names.head? := by
  rw [nextWorkload?, List.idxOf?_eq_none_iff.2 h]

section Block

variable {block : List String} (rest : List String) {name : String} {i : Nat}

/-- In a list that begins with different names, each of them leads to its neighbour, and the last one to what follows
or else back to the first one. -/
theorem nextWorkload?_block (hnd : block.Nodup) (h : block[i]? = some name) :
    nextWorkload? (block ++ rest) name = (block ++ (rest ++ block))[i + 1]? := by
  obtain ⟨hi, rfl⟩ := List.getElem?_eq_some_iff.1 h
  have hlt : i < (block ++ rest).length := by
    rw [List.length_append]
    omega
  have hplace : (block ++ rest).idxOf? block[i] = some i := by
    refine List.idxOf?_eq_some_iff.2 ⟨hlt, List.getElem_append_left hi, fun j hj heq => ?_⟩
    rw [List.getElem_append_left (hj.trans hi)] at heq
    exact Nat.ne_of_lt hj ((List.Nodup.getElem_inj_iff hnd).1 heq)
  rw [nextWorkload?, hplace, ← List.append_assoc]
  dsimp only
  rcases Nat.lt_or_ge (i + 1) (block ++ rest).length with hinside | hend
  · rw [Nat.mod_eq_of_lt hinside, List.getElem?_append_left hinside]
  · obtain hlast : i + 1 = (block ++ rest).length := Nat.le_antisymm hlt hend
    have hpos : 0 < block.length := Nat.zero_lt_of_lt hi
    rw [hlast, Nat.mod_self, List.getElem?_append_right (Nat.le_refl _), Nat.sub_self,
      List.getElem?_append_left hpos]

theorem next_of_getElem? (hnd : block.Nodup) (h : block[i]? = some name) :
    (block ++ (rest ++ block))[i + 1]? = some (next (block ++ rest) name) := by
  obtain ⟨hi, -⟩ := List.getElem?_eq_some_iff.1 h
  have hlt : i + 1 < (block ++ (rest ++ block)).length := by
    simp only [List.length_append]
    omega
  rw [next, nextWorkload?_block rest hnd h, List.getElem?_eq_getElem hlt, Option.getD_some]

theorem getElem?_iterate_next (hnd : block.Nodup) (h : block[i]? = some name) {k : Nat} (hk : i + k < block.length) :
    block[i + k]? = some ((next (block ++ rest))^[k] name) := by
  induction k generalizing i name with
  | zero => exact h
  | succ k ih =>
    have hstep := next_of_getElem? rest hnd h
    rw [List.getElem?_append_left (by omega)] at hstep
    have hrest := ih hstep (by omega)
    rwa [Nat.add_right_comm] at hrest

/-- If the first name follows the block, steps lead around it. -/
theorem getElem?_iterate_next_mod (hnd : block.Nodup) (hround : (rest ++ block).head? = block.head?)
    (h : block[i]? = some name) (k : Nat) :
    block[(i + k) % block.length]? = some ((next (block ++ rest))^[k] name) := by
  induction k generalizing i name with
  | zero =>
    obtain ⟨hi, -⟩ := List.getElem?_eq_some_iff.1 h
    rwa [Nat.add_zero, Nat.mod_eq_of_lt hi]
  | succ k ih =>
    have hstep : block[(i + 1) % block.length]? = some (next (block ++ rest) name) := by
      obtain ⟨hi, -⟩ := List.getElem?_eq_some_iff.1 h
      rw [← next_of_getElem? rest hnd h]
      rcases Nat.lt_or_ge (i + 1) block.length with hinside | hend
      · rw [Nat.mod_eq_of_lt hinside, List.getElem?_append_left hinside]
      · obtain hlast : i + 1 = block.length := Nat.le_antisymm hi hend
        rw [hlast, Nat.mod_self, List.getElem?_append_right (Nat.le_refl _), Nat.sub_self, ← List.head?_eq_getElem?,
          ← List.head?_eq_getElem?, hround]
    have hrest := ih hstep
    rwa [Nat.mod_add_mod, Nat.add_assoc, Nat.add_comm 1 k] at hrest

/-- The name after a name of the block is another one of the block or the one that comes first behind it. -/
theorem next_of_mem (hnd : block.Nodup) (h : name ∈ block) :
    next (block ++ rest) name ∈ block.tail ∨ (rest ++ block).head? = some (next (block ++ rest) name) := by
  obtain ⟨i, hi⟩ := List.mem_iff_getElem?.1 h
  obtain ⟨hlt, -⟩ := List.getElem?_eq_some_iff.1 hi
  have hnext := next_of_getElem? rest hnd hi
  rcases Nat.lt_or_ge (i + 1) block.length with hinside | hend
  · rw [List.getElem?_append_left hinside, ← List.getElem?_tail] at hnext
    exact .inl (List.mem_of_getElem? hnext)
  · obtain hlast : i + 1 = block.length := Nat.le_antisymm hlt hend
    rw [hlast, List.getElem?_append_right (Nat.le_refl _), Nat.sub_self, ← List.head?_eq_getElem?] at hnext
    exact .inr hnext

/-- If a name of the block follows it, steps do not leave the block. -/
theorem iterate_next_mem (hnd : block.Nodup) (hhead : ∀ x ∈ rest.head?, x ∈ block) (h : name ∈ block) (k : Nat) :
    (next (block ++ rest))^[k] name ∈ block := by
  induction k generalizing name with
  | zero => exact h
  | succ k ih =>
    refine ih ?_
    rcases next_of_mem rest hnd h with htail | hfirst
    · exact List.mem_of_mem_tail htail
    · cases rest with
      | nil => exact List.mem_of_head? hfirst
      | cons x rest => exact hhead _ hfirst

end Block

/-- A list begins with different names up to the first one that stands in it already. -/
theorem exists_nodup_append (names : List String) :
    ∃ block rest, names = block ++ rest ∧ block.Nodup ∧ ∀ x ∈ rest.head?, x ∈ block := by
  have hmore : ∀ rest block : List String, block.Nodup → ∃ block' rest', block ++ rest = block' ++ rest' ∧
      block'.Nodup ∧ ∀ x ∈ rest'.head?, x ∈ block' := by
    intro rest
    induction rest with
    | nil => exact fun block hnd => ⟨block, [], rfl, hnd, nofun⟩
    | cons x rest ih =>
      intro block hnd
      by_cases hx : x ∈ block
      · exact ⟨block, x :: rest, rfl, hnd, fun y hy => Option.some.inj hy ▸ hx⟩
      · have hlong : (block ++ [x]).Nodup := by
          rw [← List.concat_eq_append]
          exact hnd.concat hx
        obtain ⟨block', rest', heq, hparts⟩ := ih (block ++ [x]) hlong
        exact ⟨block', rest', by rw [← heq, List.append_assoc, List.singleton_append], hparts⟩
  exact hmore names [] List.nodup_nil

/-- After the different names that the list begins with, it has no others. If the current name is listed, what comes
after them begins with the first of them. -/
def ComesAround (names : List String) (current : String) : Prop :=
  ∃ block rest, names = block ++ rest ∧ block.Nodup ∧ rest ⊆ block ∧
    (current ∈ names → ∀ name ∈ rest.head?, block.head? = some name)

theorem comesAround_of_nodup {names : List String} (h : names.Nodup) (current : String) : ComesAround names current :=
  ⟨names, [], (List.append_nil names).symm, h, List.nil_subset _, fun _ => nofun⟩

section Taken

variable {names : List String} {current : String}

theorem ComesAround.exists_iterate (h : ComesAround names current) {name : String} (hname : name ∈ names) :
    ∃ n < names.length, (next names)^[n + 1] current = name := by
  obtain ⟨block, rest, rfl, hnd, hsub, hround⟩ := h
  have hlen : block.length ≤ (block ++ rest).length := (List.length_append ▸ Nat.le_add_right _ _)
  have hmem {x : String} (hx : x ∈ block ++ rest) : x ∈ block :=
    (List.mem_append.1 hx).elim id fun hx => hsub hx
  obtain ⟨j, hj⟩ := List.mem_iff_getElem?.1 (hmem hname)
  obtain ⟨hjlt, -⟩ := List.getElem?_eq_some_iff.1 hj
  by_cases hcurrent : current ∈ block ++ rest
  · -- around the block
    have hhead : (rest ++ block).head? = block.head? := by
      cases rest with
      | nil => rfl
      | cons x rest => exact (hround hcurrent x rfl).symm
    obtain ⟨i, hi⟩ := List.mem_iff_getElem?.1 (hmem hcurrent)
    obtain ⟨n, ⟨hn, hplace⟩, -⟩ := Picker.existsUnique_add_mod (i + 1) hjlt
    refine ⟨n, Nat.lt_of_lt_of_le hn hlen, ?_⟩
    have hiter := getElem?_iterate_next_mod rest hnd hhead hi (n + 1)
    rw [Nat.add_comm n 1, ← Nat.add_assoc, hplace, hj, Nat.add_comm 1 n] at hiter
    exact (Option.some.inj hiter).symm
  · -- from the first name on
    have hpos : 0 < block.length := Nat.zero_lt_of_lt hjlt
    have hfirst : block[0]? = some (next (block ++ rest) current) := by
      rw [next, nextWorkload?_of_notMem hcurrent, List.head?_eq_getElem?, List.getElem?_append_left hpos,
        List.getElem?_eq_getElem hpos, Option.getD_some]
    refine ⟨j, Nat.lt_of_lt_of_le hjlt hlen, ?_⟩
    have hiter := getElem?_iterate_next rest hnd hfirst (k := j) (by omega)
    rw [Nat.zero_add, hj] at hiter
    exact (Option.some.inj hiter).symm

theorem comesAround_of_forall (hne : names ≠ [])
    (h : ∀ name ∈ names, ∃ n, (next names)^[n + 1] current = name) : ComesAround names current := by
  obtain ⟨block, rest, rfl, hnd, hhead⟩ := exists_nodup_append names
  have hblock : block ≠ [] := by
    rintro rfl
    obtain ⟨x, rest', rfl⟩ := List.exists_cons_of_ne_nil hne
    exact absurd (hhead x rfl) List.not_mem_nil
  obtain ⟨first, others, rfl⟩ := List.exists_cons_of_ne_nil hblock
  set names := first :: others ++ rest
  have hstay {name : String} (hname : name ∈ first :: others) (k : Nat) : (next names)^[k] name ∈ first :: others :=
    iterate_next_mem rest hnd hhead hname k
  by_cases hcurrent : current ∈ names
  · obtain ⟨n, hn⟩ := h current hcurrent
    obtain ⟨m, hm⟩ := h first List.mem_cons_self
    -- the steps come back to where they began, and on the way they enter the block, which they do not leave
    have hback : (next names)^[n * (m + 1)] first = current := by
      rw [← hm, ← Function.iterate_add_apply, ← Nat.succ_mul, Function.iterate_mul]
      exact Function.iterate_fixed hn (m + 1)
    have hinside : current ∈ first :: others := hback ▸ hstay List.mem_cons_self _
    refine ⟨first :: others, rest, rfl, hnd, fun x hx => ?_, fun _ x hx => ?_⟩
    · obtain ⟨k, hk⟩ := h x (List.mem_append_right _ hx)
      exact hk ▸ hstay hinside (k + 1)
    · rw [Function.iterate_succ_apply'] at hm
      rcases next_of_mem rest hnd (hstay hinside m) with htail | hfirst
      · exact absurd (hm ▸ htail) (List.nodup_cons.1 hnd).1
      · obtain ⟨rest', rfl⟩ : ∃ rest', rest = x :: rest' := List.head?_eq_some_iff.1 hx
        exact (congrArg some hm).symm.trans hfirst.symm
  · have hnext : next names current = first := by rw [next, nextWorkload?_of_notMem hcurrent]; rfl
    refine ⟨first :: others, rest, rfl, hnd, fun x hx => ?_, fun hmem => absurd hmem hcurrent⟩
    obtain ⟨k, hk⟩ := h x (List.mem_append_right _ hx)
    rw [Function.iterate_succ_apply, hnext] at hk
    exact hk ▸ hstay List.mem_cons_self k

/-- **Going on comes to all names exactly if the list comes around,** and then in as many steps as it is long. -/
theorem forall_taken_iff (hne : names ≠ []) :
    (∀ name ∈ names, ∃ n < names.length, (next names)^[n + 1] current = name) ↔ ComesAround names current := by
  constructor
  · intro h
    refine comesAround_of_forall hne fun name hname => ?_
    obtain ⟨n, -, hn⟩ := h name hname
    exact ⟨n, hn⟩
  · exact fun h _ hname => h.exists_iterate hname

end Taken

/-! ### Presses of a key -/

@[simp] theorem config_setPicker (a : App) (side : Side) (p : Picker) : (a.setPicker side p).config = a.config := by
  cases side <;> rfl

@[simp] theorem config_change (a : App) (c : Change) : (a.change c).config = a.config := rfl

theorem openSide?_change (a : App) (c : Change) : (a.change c).openSide? = a.openSide? := by
  have hopen (side : Side) : ((a.change c).picker side).isOpen = (a.picker side).isOpen := by
    rw [picker_change, Picker.isOpen_adopt]
  have hold : (a.change c).oldPicker.isOpen = a.oldPicker.isOpen := hopen .old
  have hnew : (a.change c).newPicker.isOpen = a.newPicker.isOpen := hopen .new
  rw [openSide?, openSide?, hold, hnew]

theorem Moves.config_eq {a a' : App} {e : Event} (hm : Moves a e a') : a'.config = a.config := by
  cases hm with
  | edit | activate => exact config_setPicker ..
  | choose => exact (config_change ..).trans (config_setPicker ..)
  | cycle | change | view | reload | reloadCatalog | unmount => rfl
  | @receive now o =>
    obtain ⟨page, catalog, note, updatedAt, -, hreceive⟩ := exists_receive a now o
    rw [hreceive]

theorem config_run (a : App) (es : List Event) : (a.run es).config = a.config := by
  induction es generalizing a with
  | nil => rfl
  | cons e es ih => exact (ih (a.step e)).trans (moves_step a e).config_eq

theorem config_start {config : Config} {kind : Kind} {query : String} {a : App}
    (h : start config kind query = .ok a) : a.config = config := by
  obtain ⟨oldChord, newChord, rfl⟩ := exists_of_start h
  rfl

def cycleChar : Side → Char
  | .old => 'w' | .new => 'W'

/-- The key moves the side to its next workload: no picker and no chord takes it, and there are workloads on offer. -/
structure Cycles (a : App) (side : Side) (k : Keystroke) : Prop where
  kind : a.kind = .foreignKeys
  offered : a.config.workloads ≠ []
  closed : a.openSide? = none
  key : k.key = .char (cycleChar side)
  free : a.bindings.route k .dashboard = none

section Cycles

variable {a : App} {side : Side} {k : Keystroke}

theorem Cycles.press (h : a.Cycles side k) :
    a.press k = a.change (.workload side (next a.config.workloads (a.params.workload side))) := by
  have hfocus : a.focus = .dashboard := by rw [focus, h.closed]; rfl
  have hcommand : a.press k = a.pressCommand k := by
    rw [App.press, h.closed]
    dsimp only
    rw [hfocus, h.free]
  have hcycle : a.pressCommand k = a.cycleWorkload side := by
    rw [pressCommand, h.key]
    cases side <;> rfl
  rw [hcommand, hcycle, cycleWorkload, h.kind, nextWorkload?_eq_next h.offered]
  rfl

theorem Cycles.step (h : a.Cycles side k) : (a.press k).Cycles side k := by
  rw [h.press]
  exact ⟨(kind_change ..).trans h.kind, h.offered, (openSide?_change ..).trans h.closed, h.key, h.free⟩

/-- Presses go through the list and change nothing else among the inputs. -/
theorem Cycles.params_run (h : a.Cycles side k) (n : Nat) : (a.run (List.replicate n (.key k))).params =
    a.params.apply (.workload side ((next a.config.workloads)^[n] (a.params.workload side))) := by
  induction n generalizing a with
  | zero => exact (Params.apply_workload_self ..).symm
  | succ n ih =>
    calc (a.run (List.replicate (n + 1) (.key k))).params
        = ((a.press k).run (List.replicate n (.key k))).params := rfl
      _ = _ := by
        rw [ih h.step, h.press, params_change, config_change, Params.apply_workload_apply_workload,
          Params.workload_apply_workload_self, Function.iterate_succ_apply]

end Cycles

/-! ### The main statement -/

/-- **As many presses as there are workloads take every one of them exactly if the list comes around.** On a page for
one commit, let no picker be open and no chord take the key of a side. Presses of the key change neither the workload of
the other side nor a ref. In as many presses as there are workloads on offer, each of them becomes the workload of the
side exactly if the list comes around from the workload that the side has, and so whenever no workload is listed
twice. -/
theorem workload_run_presses {config : Config} {query : String} {a : App}
    (h : start config .foreignKeys query = .ok a) (es : List Event) {side : Side} {k : Keystroke}
    (hne : config.workloads ≠ []) (ho : (a.run es).openSide? = none) (hk : k.key = .char (cycleChar side))
    (hfree : (a.run es).bindings.route k .dashboard = none) :
    let b := a.run es
    let names := config.workloads
    let after (n : Nat) := (b.run (List.replicate n (.key k))).params
    (∀ n side', (side' ≠ side → (after n).workload side' = b.params.workload side') ∧
      (after n).ref side' = b.params.ref side') ∧
    ((∀ name ∈ names, ∃ n < names.length, (after (n + 1)).workload side = name) ↔
      ComesAround names (b.params.workload side)) ∧
    (names.Nodup → ∀ name ∈ names, ∃ n < names.length, (after (n + 1)).workload side = name) := by
  intro b names after
  have hconfig : b.config = config := (config_run a es).trans (config_start h)
  have hcycles : b.Cycles side k :=
    ⟨(kind_run a es).trans (kind_start h), by rwa [hconfig], ho, hk, hfree⟩
  have hafter (n : Nat) : after n = b.params.apply (.workload side ((next names)^[n] (b.params.workload side))) := by
    have hrun := hcycles.params_run n
    rwa [hconfig] at hrun
  have hall : (∀ name ∈ names, ∃ n < names.length, (after (n + 1)).workload side = name) ↔
      ComesAround names (b.params.workload side) := by
    simp only [hafter, Params.workload_apply_workload_self]
    exact forall_taken_iff hne
  refine ⟨fun n side' => ⟨fun hside => ?_, ?_⟩, hall, fun hnd => hall.2 (comesAround_of_nodup hnd _)⟩
  · rw [hafter, Params.workload_apply_workload_of_ne _ hside]
  · rw [hafter, Params.ref_apply_workload]

/-- A dashboard for one commit, with these workloads on offer and none of them set. -/
def offering (workloads : List String) : App := { blank with config := { workloads } }

theorem start_offering (workloads : List String) :
    start { workloads } .foreignKeys "" = .ok (offering workloads) := by
  have hold : parseChord .old "o" = .ok { key := 'o' } := rfl
  have hnew : parseChord .new "j" = .ok { key := 'j' } := rfl
  simp only [start, hold, hnew]
  rfl

/-- Presses from "B" take both names of a list that names "A" twice. -/
theorem workload_run_presses_around :
    let names := ["A", "B", "A"]
    let k := Keystroke.plain 'w'
    let b := (offering names).run [.change (.oldWorkload "B")]
    start { workloads := names } .foreignKeys "" = .ok (offering names) ∧ names ≠ [] ∧ b.openSide? = none ∧
      k.key = .char (cycleChar .old) ∧ b.bindings.route k .dashboard = none ∧
      ∀ name ∈ names, ∃ n < 3, (b.run (List.replicate (n + 1) (.key k))).params.oldWorkload = name := by
  intro names k b
  have hround : ComesAround names "B" :=
    ⟨["A", "B"], ["A"], rfl, by decide, by decide, fun _ name hname => hname⟩
  have hne : names ≠ [] := List.cons_ne_nil _ _
  have ho : b.openSide? = none := by decide +kernel
  have hfree : b.bindings.route k .dashboard = none := by decide +kernel
  have hkey : k.key = .char (cycleChar .old) := rfl
  have hcurrent : b.params.oldWorkload = "B" := by decide +kernel
  obtain ⟨-, hall, -⟩ := workload_run_presses (start_offering names) [.change (.oldWorkload "B")] hne ho hkey hfree
  exact ⟨start_offering names, hne, ho, hkey, hfree, hall.2 (hcurrent ▸ hround)⟩

/-- From "A" the presses come to "B" and back, since the place of "A" is the first one, and never to "C". -/
theorem workload_run_presses_repeated :
    let names := ["A", "B", "A", "C"]
    let a := offering names
    let after (n : Nat) := (a.run (List.replicate n (.key (.plain 'w')))).params.oldWorkload
    start { workloads := names } .foreignKeys "" = .ok a ∧ a.openSide? = none ∧ a.oldChord = { key := 'o' } ∧
      [after 1, after 2, after 3, after 4] = ["A", "B", "A", "B"] ∧
      ¬ ∀ name ∈ names, ∃ n < names.length, after (n + 1) = name := by
  intro names a after
  have ho : a.openSide? = none := by decide +kernel
  have hvalues : [after 1, after 2, after 3, after 4] = ["A", "B", "A", "B"] := by decide +kernel
  have hwalk : ∀ n < 4, after (n + 1) ≠ "C" := by decide +kernel
  refine ⟨start_offering names, ho, rfl, hvalues, fun hall => ?_⟩
  obtain ⟨n, hn, heq⟩ := hall "C" (by decide)
  exact hwalk n hn heq

end App

end BenchCompare
