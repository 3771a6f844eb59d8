import BenchCompare.Proofs.Picker.Run

/-!
# What a closed picker ignores

Only opening and a ref from outside are meant for a closed picker. The arrows do not ask whether it is open.

* `Picker.emitted`: the ref that an event gives, if it makes a choice.
* `Picker.Settled p`: the picker is open or has nothing highlighted.
* `Picker.Lights p e`: the event is an arrow over a list with entries, and the picker is closed. `Settled.step_iff`: only
  such an event leaves a closed picker with a highlight.

Main statement: `ignores_run`.
-/

namespace BenchCompare.Picker

def emitted (p : Picker) : Event → Option String
  | .select r => (p.select r).2
  | .confirmTyped => p.confirmTyped.2
  | .confirm c => (p.confirm c).2
  | _ => none

/-- A closed picker has nothing highlighted. -/
def Settled (p : Picker) : Prop := p.isOpen = false → p.highlight = none

/-- The event is an arrow over a list with entries, and the picker is closed. -/
def Lights (p : Picker) : Event → Prop
  | .moveDown c | .moveUp c => p.isOpen = false ∧ p.listed c ≠ []
  | _ => False

theorem Lights.isOpen {p : Picker} {e : Event} (h : p.Lights e) : p.isOpen = false := by
  cases e with
  | moveDown | moveUp => exact h.1
  | _ => exact h.elim

theorem not_isInner_iff {e : Event} : ¬ e.IsInner ↔ e = .activate ∨ ∃ value, e = .adopt value := by
  cases e <;> simp [Event.IsInner]

/-! ### Closed pickers -/

section Closed

variable {p : Picker} (h : p.isOpen = false)
include h

theorem emitted_of_closed (e : Event) : p.emitted e = none := by
  have hclosed : ¬ p.isOpen = true := by simp [h]
  cases e with
  | select | confirmTyped => exact congrArg Prod.snd (if_neg hclosed)
  | confirm c => exact congrArg Prod.snd (confirm_of_closed h c)
  | _ => rfl

/-- Without a highlight, an arrow finds an entry unless the list is empty. -/
theorem highlightAfter_eq_none_iff (hnone : p.highlight = none) (e : Event) :
    p.highlightAfter e = none ↔ ¬ p.Lights e := by
  cases e with
  | moveDown c | moveUp c => simp [highlightAfter, below, above, Lights, hnone, h]
  | _ => simp [highlightAfter, Lights, hnone]

theorem step_eq_self_iff (hnone : p.highlight = none) {e : Event} (he : e.IsInner) :
    p.step e = p ↔ ¬ p.Lights e := by
  rw [step_of_closed h he, ← highlightAfter_eq_none_iff h hnone]
  constructor
  · intro heq
    exact (congrArg Picker.highlight heq).trans hnone
  · intro hafter
    rw [hafter, ← hnone]

end Closed

/-! ### Settled pickers -/

theorem highlight_adopt (p : Picker) (value : String) : (p.adopt value).highlight = p.highlight := by
  unfold adopt
  split <;> rfl

/-- What closes an open picker takes the highlight away. -/
theorem settled_step_of_open {p : Picker} (h : p.isOpen = true) (e : Event) : (p.step e).Settled := by
  have hopen {q : Picker} (hq : q.isOpen = true) : q.Settled := fun hclosed => absurd (hq.symm.trans hclosed) (by decide)
  cases hpick : p.pick? e with
  | some pick =>
    rw [step_of_pick? hpick]
    exact fun _ => rfl
  | none =>
    cases e with
    | activate =>
      have hsame : p.activate = p := if_pos h
      exact hopen (by rw [step, hsame, h])
    | dismiss => exact fun _ => rfl
    | setInput | push | pop => exact hopen ((isOpen_setInput p _).trans h)
    | adopt value => exact hopen ((isOpen_adopt p value).trans h)
    | moveDown | moveUp => exact hopen h
    | select | confirmTyped | confirm => simp [pick?, h] at hpick

/-- **Only an arrow over a list with entries leaves a closed picker with a highlight.** -/
theorem Settled.step_iff {p : Picker} (h : p.Settled) (e : Event) : (p.step e).Settled ↔ ¬ p.Lights e := by
  cases ho : p.isOpen with
  | true =>
    refine iff_of_true (settled_step_of_open ho e) fun hlights => ?_
    rw [hlights.isOpen] at ho
    cases ho
  | false =>
    by_cases he : e.IsInner
    · have hstep := step_of_closed ho he
      rw [← highlightAfter_eq_none_iff ho (h ho), hstep]
      exact ⟨fun hsettled => hsettled ho, fun hnone _ => hnone⟩
    · rcases not_isInner_iff.1 he with rfl | ⟨value, rfl⟩
      · refine iff_of_true (fun hclosed => ?_) id
        rw [step, activate_of_closed ho] at hclosed
        cases hclosed
      · exact iff_of_true (fun _ => (highlight_adopt p value).trans (h ho)) id

/-! ### The main statement -/

/-- **A closed picker ignores all but opening and refs from outside, the arrows apart.** Let a new picker go through any
events. While it is closed, no other event makes it give a ref, and dismissing and the arrows change nothing but the
highlight, all others nothing at all. Without a highlight, an event changes the closed picker exactly if it is an arrow
over a list with entries. A closed picker has nothing highlighted all along exactly if no such arrow comes while it is
closed. -/
theorem ignores_run (side : Side) (es : List Event) :
    let p := run { side } es
    (p.isOpen = false → ∀ e, e.IsInner →
      p.emitted e = none ∧ p.step e = { p with highlight := p.highlightAfter e } ∧
      (p.highlight = none → (p.step e = p ↔ ¬ p.Lights e))) ∧
    ((∀ before, before <+: es → (run { side } before).Settled) ↔
      ∀ before e, before ++ [e] <+: es → ¬ (run { side } before).Lights e) := by
  intro p
  refine ⟨fun hclosed e he => ?_, ?_⟩
  · exact ⟨emitted_of_closed hclosed e, step_of_closed hclosed he, fun hnone => step_eq_self_iff hclosed hnone he⟩
  · refine forall_prefix_iff (P := fun before => (run { side } before).Settled) (fun _ => rfl) ?_
    intro before e _ hsettled
    show (run { side } (before ++ [e])).Settled ↔ _
    rw [run_concat]
    exact hsettled.step_iff e

/-- Down highlights the only branch in a picker that was never opened. -/
theorem highlight_run_closed :
    let branch : Option Catalog := some { branches := [⟨"main", "deadbeef"⟩] }
    let p := run { side := .old } [.moveDown branch]
    p.isOpen = false ∧ p.highlight = some 0 ∧ ¬ p.Settled ∧ p ≠ run { side := .old } [] := by
  intro branch p
  have hclosed : p.isOpen = false := by decide +kernel
  have hlit : p.highlight = some 0 := by decide +kernel
  refine ⟨hclosed, hlit, fun hsettled => ?_, by decide +kernel⟩
  rw [hsettled hclosed] at hlit
  cases hlit

end BenchCompare.Picker
