import BenchCompare.Proofs.Picker.Choice
import Mathlib.Data.List.Induction

/-!
# Runs of a picker

* `forall_prefix_iff`: what holds all along a run, from what a single event does.
* `Picker.Event`, `Picker.step`, `Picker.run`: all that may be done to a picker, and the effect of a list of it.
* `Picker.pick?`: what an event chooses. `step_of_pick?`: however it is chosen, it leaves the same picker.
* `Event.IsInner`: the event neither opens a picker nor gives it a ref from outside. `step_of_closed`: all that such an
  event does to a closed picker.
* `Picker.Rests p pick`: the picker is closed and still has what was chosen. `Rests.run`: it stays so until it is opened
  or takes over another ref.

Main statement: `confirm_activate_run`.
-/

namespace BenchCompare

/-! ### Beginnings of a run -/

/-- Let a property hold at the start of a list of events and, where it holds, behind every further event but some. It
holds all along exactly if none of these events comes. -/
theorem forall_prefix_iff {ε : Type} {P : List ε → Prop} {Ends : List ε → ε → Prop} {es : List ε} (hnil : P [])
    (hstep : ∀ before e, before ++ [e] <+: es → P before → (P (before ++ [e]) ↔ ¬ Ends before e)) :
    (∀ before, before <+: es → P before) ↔ ∀ before e, before ++ [e] <+: es → ¬ Ends before e := by
  constructor
  · intro hall before e hbefore
    have hholds := hall before ((List.prefix_append before [e]).trans hbefore)
    exact (hstep before e hbefore hholds).1 (hall _ hbefore)
  · intro hno before
    -- the last event of a beginning is what may end the property
    induction before using List.reverseRecOn with
    | nil => exact fun _ => hnil
    | append_singleton before e ih =>
      intro hbefore
      have hholds := ih ((List.prefix_append before [e]).trans hbefore)
      exact (hstep before e hbefore hholds).2 (hno before e hbefore)

namespace Picker

/-! ### Events -/

inductive Event where
  | activate
  | dismiss
  | setInput (text : String)
  | push (c : Char)
  | pop
  | select (r : Ref)
  | confirmTyped
  | confirm (c : Option Catalog)
  | adopt (value : String)
  | moveDown (c : Option Catalog)
  | moveUp (c : Option Catalog)

def step (p : Picker) : Event → Picker
  | .activate => p.activate
  | .dismiss => p.dismiss
  | .setInput text => p.setInput text
  | .push c => p.push c
  | .pop => p.pop
  | .select r => (p.select r).1
  | .confirmTyped => p.confirmTyped.1
  | .confirm c => (p.confirm c).1
  | .adopt value => p.adopt value
  | .moveDown c => p.moveDown c
  | .moveUp c => p.moveUp c

def run (p : Picker) (es : List Event) : Picker := es.foldl step p

theorem run_append (p : Picker) (es es' : List Event) : p.run (es ++ es') = (p.run es).run es' := List.foldl_append

theorem run_concat (p : Picker) (es : List Event) (e : Event) : p.run (es ++ [e]) = (p.run es).step e :=
  run_append p es [e]

/-! ### Choices in a run -/

/-- What an event chooses, nothing while the picker is closed. -/
def pick? (p : Picker) : Event → Option Pick
  | .select r => if p.isOpen then some (.entry r) else none
  | .confirmTyped => if p.isOpen then some (.text p.input) else none
  | .confirm c => if p.isOpen then some (p.enterPick c) else none
  | _ => none

theorem step_of_pick? {p : Picker} {e : Event} {pick : Pick} (h : p.pick? e = some pick) : p.step e = p.picked pick := by
  cases e with
  | select r =>
    obtain ⟨hopen, hpick⟩ := Option.ite_none_right_eq_some.1 h
    obtain rfl := Option.some.inj hpick
    rw [step, select_of_isOpen hopen]
  | confirmTyped =>
    obtain ⟨hopen, hpick⟩ := Option.ite_none_right_eq_some.1 h
    obtain rfl := Option.some.inj hpick
    rw [step, confirmTyped_of_isOpen hopen]
  | confirm c =>
    obtain ⟨hopen, hpick⟩ := Option.ite_none_right_eq_some.1 h
    obtain rfl := Option.some.inj hpick
    rw [step, confirm_eq_enterPick hopen]
  | _ => cases h

/-! ### Closed pickers -/

/-- The event neither opens a picker nor gives it a ref from outside. -/
def Event.IsInner : Event → Prop
  | .activate | .adopt _ => False
  | _ => True

/-- The highlight of a closed picker after an event. -/
def highlightAfter (p : Picker) : Event → Option Nat
  | .dismiss => none
  | .moveDown c => below (p.listed c).length p.highlight
  | .moveUp c => above (p.listed c).length p.highlight
  | _ => p.highlight

section Closed

variable {p : Picker} (h : p.isOpen = false)
include h

theorem confirm_of_closed (c : Option Catalog) : p.confirm c = (p, none) := by
  have hclosed : ¬ p.isOpen = true := by simp [h]
  unfold confirm
  split <;> exact if_neg hclosed

theorem step_of_closed {e : Event} (he : e.IsInner) : p.step e = { p with highlight := p.highlightAfter e } := by
  have hclosed : ¬ p.isOpen = true := by simp [h]
  cases e with
  | activate | adopt => exact he.elim
  | dismiss =>
    show p.dismiss = _
    rw [dismiss, ← h]
    rfl
  | moveDown | moveUp => rfl
  | setInput | push | pop => exact if_neg hclosed
  | select | confirmTyped => exact congrArg Prod.fst (if_neg hclosed)
  | confirm c => exact congrArg Prod.fst (confirm_of_closed h c)

end Closed

/-! ### After a choice -/

/-- The picker is closed, and its box and its value are as the choice has left them. -/
structure Rests (p : Picker) (pick : Pick) : Prop where
  isOpen : p.isOpen = false
  input : p.input = pick.input
  value : p.value = pick.value

/-- The event neither opens a picker with this value nor gives it another one from outside. -/
def Event.Leaves (value : String) : Event → Prop
  | .activate => False
  | .adopt value' => value' = value
  | _ => True

theorem Event.Leaves.isInner_or_eq {value : String} {e : Event} (h : e.Leaves value) :
    e.IsInner ∨ e = .adopt value := by
  cases e with
  | activate => exact h.elim
  | adopt value' => exact .inr (congrArg Event.adopt h)
  | _ => exact .inl trivial

theorem rests_picked (p : Picker) (pick : Pick) : (p.picked pick).Rests pick := ⟨rfl, rfl, rfl⟩

section Rests

variable {p : Picker} {pick : Pick}

theorem Rests.step (h : p.Rests pick) {e : Event} (he : e.Leaves pick.value) : (p.step e).Rests pick := by
  rcases he.isInner_or_eq with hinner | rfl
  · rw [step_of_closed h.isOpen hinner]
    exact ⟨h.isOpen, h.input, h.value⟩
  · rwa [Picker.step, adopt_self h.value.symm]

theorem Rests.run (h : p.Rests pick) {es : List Event} (hes : ∀ e ∈ es, e.Leaves pick.value) :
    (p.run es).Rests pick := by
  induction es generalizing p with
  | nil => exact h
  | cons e es ih =>
    have hstep := h.step (hes e List.mem_cons_self)
    exact ih hstep fun e' he' => hes e' (List.mem_cons_of_mem _ he')

/-- A picker that is opened has nothing highlighted, so Enter chooses the text in the box. -/
theorem Rests.confirm_activate (h : p.Rests pick) (c : Option Catalog) :
    (p.activate.confirm c).2 = some (Text.trim pick.input) := by
  have hactivate := activate_of_closed h.isOpen
  have hnone : p.activate.highlighted? c = none := by rw [hactivate]; rfl
  have hpick : p.activate.enterPick c = .text pick.input := by
    rw [enterPick, hnone, hactivate]
    exact congrArg Pick.text h.input
  rw [confirm_eq_enterPick (by rw [hactivate]), hpick]
  rfl

end Rests

/-! ### The main statement -/

/-- **Opened and confirmed again, a picker chooses the text that its last choice has left in the box.** Let `e` be the
last choice of a run, after which the picker is neither opened nor given another ref from outside. Then the picker is
closed and has the ref of the choice, and opening it and pressing Enter gives the text in the box without blank space at
its ends. That is the ref once more exactly if the choice was a typed text or an entry whose name reads as its hash. -/
theorem confirm_activate_run (side : Side) (before after : List Event) (e : Event) (pick : Pick)
    (he : (run { side } before).pick? e = some pick) (hafter : ∀ e' ∈ after, e'.Leaves pick.value) :
    let p := run { side } (before ++ e :: after)
    p.isOpen = false ∧ p.value = pick.value ∧ ∀ c,
      (p.activate.confirm c).2 = some (Text.trim pick.input) ∧
      ((p.activate.confirm c).2 = some p.value ↔ pick.Readable) := by
  intro p
  have hp : p.Rests pick := by
    have hstep : ((run { side } before).step e).Rests pick := step_of_pick? he ▸ rests_picked _ pick
    have hrun : p = ((run { side } before).step e).run after := run_append _ before (e :: after)
    exact hrun ▸ hstep.run hafter
  refine ⟨hp.isOpen, hp.value, fun c => ⟨hp.confirm_activate c, ?_⟩⟩
  rw [hp.confirm_activate c, hp.value, Pick.readable_iff]
  exact Option.some_inj

/-- A typed text comes back to the picker from its page, and is chosen again. -/
theorem confirm_activate_typed :
    let p := run { side := .old } [.activate, .setInput " abc123 ", .confirmTyped, .adopt "abc123", .moveDown none]
    p.isOpen = false ∧ p.value = "abc123" ∧ (p.activate.confirm none).2 = some "abc123" := by
  have hpick : (run { side := .old } [.activate, .setInput " abc123 "]).pick? .confirmTyped = some (.text " abc123 ") := by
    decide +kernel
  have hafter : ∀ e ∈ [Event.adopt "abc123", .moveDown none], e.Leaves (Pick.text " abc123 ").value := by
    intro e he
    rcases List.mem_cons.1 he with rfl | he
    · have hvalue : "abc123" = (Pick.text " abc123 ").value := by decide +kernel
      exact hvalue
    · obtain rfl := List.mem_singleton.1 he
      trivial
  obtain ⟨hclosed, hvalue, hconfirm⟩ := confirm_activate_run .old _ _ _ _ hpick hafter
  have htrim : (Pick.text " abc123 ").value = "abc123" := by decide +kernel
  refine ⟨hclosed, hvalue.trans htrim, (hconfirm none).1.trans (congrArg some htrim)⟩

/-- A branch is chosen from the list. Opened and confirmed again, the picker gives the name of the branch in place of its
hash. -/
theorem confirm_activate_branch :
    let p := run { side := .old } [.activate, .select ⟨"main", "deadbeef"⟩]
    p.isOpen = false ∧ p.value = "deadbeef" ∧
      (p.activate.confirm (some { branches := [⟨"main", "deadbeef"⟩] })).2 = some "main" ∧
      (p.activate.confirm (some { branches := [⟨"main", "deadbeef"⟩] })).2 ≠ some p.value := by
  decide +kernel

end Picker

end BenchCompare
