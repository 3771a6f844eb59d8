import BenchCompare.Proofs.App.Opening
import BenchCompare.Proofs.App.Selection
import BenchCompare.View.Comparison

/-!
# Scrolling the comparison

The keys move the stored offset down without a bound, and the view cuts it to the last line that may stand at its top.
What lies beyond that line is the excess of the offset: it is not seen, and the keys that scroll up use it up first.

* `View.reached`, `View.excess`: what is seen of an offset and what is not. `firstVisible_sub_iff`: exactly when a
  smaller offset moves the view up by as much.
* `Keystroke.Scrolls k`: the key scrolls. `Keystroke.scrolled`: what it does to the offset. `press_scroll`,
  `run_scroll`: while no picker is open, keys that scroll do this and nothing else.

Main statement: `topLine_press_up`.
-/

namespace BenchCompare

/-! ### Offsets and what is seen of them -/

namespace View

/-- The line that an offset comes to, counted without a limit. -/
def reached (lines height scroll : Nat) : Nat := min scroll (lines - height)

/-- The part of an offset that lies beyond the last line that may stand at the top. -/
def excess (lines height scroll : Nat) : Nat := scroll - (lines - height)

section Offset

variable (lines height scroll n : Nat)

/-- The excess is taken off first, and only the rest moves the view. -/
theorem reached_sub : reached lines height (scroll - n) =
    reached lines height scroll - (n - excess lines height scroll) := by
  unfold reached excess
  omega

variable {lines height scroll n}

/-- The view stays as long as the excess lasts. -/
theorem firstVisible_sub_of_le (h : n ≤ excess lines height scroll) :
    firstVisible lines height (scroll - n) = firstVisible lines height scroll := by
  have hreached : reached lines height (scroll - n) = reached lines height scroll := by
    rw [reached_sub, Nat.sub_eq_zero_of_le h, Nat.sub_zero]
  exact congrArg (· % scrollLimit) hreached

/-- **The view moves up by `n` lines, or to the top if there are fewer above, exactly in three cases.** With `n` lines
above, there must be no excess. With fewer, the excess may take up what is not needed, and where the line counts beyond
the limit it must do so exactly, since the line zero is passed. -/
theorem firstVisible_sub_iff (hpos : 0 < n) (hn : n ≤ scrollLimit) (htop : 0 < firstVisible lines height scroll) :
    firstVisible lines height (scroll - n) = firstVisible lines height scroll - n ↔
      if n ≤ firstVisible lines height scroll then excess lines height scroll = 0
      else if reached lines height scroll < scrollLimit then
        firstVisible lines height scroll + excess lines height scroll ≤ n
      else firstVisible lines height scroll + excess lines height scroll = n := by
  have hsub : firstVisible lines height (scroll - n) =
      (reached lines height scroll - (n - excess lines height scroll)) % scrollLimit :=
    congrArg (· % scrollLimit) (reached_sub lines height scroll n)
  have htop' : firstVisible lines height scroll = reached lines height scroll % scrollLimit := rfl
  rw [hsub]
  rw [htop'] at htop ⊢
  generalize reached lines height scroll = line at *
  generalize excess lines height scroll = past at *
  unfold scrollLimit at *
  split
  · omega
  · split <;> omega

end Offset

end View

/-! ### Keys that scroll -/

namespace Keystroke

def Scrolls (k : Keystroke) : Prop := k.key ∈ [Key.up, .down, .pageUp, .pageDown]

instance (k : Keystroke) : Decidable k.Scrolls := by unfold Scrolls; infer_instance

def scrolled (offset : Nat) (k : Keystroke) : Nat :=
  match k.key with
  | .up => offset - 1
  | .down => offset + 1
  | .pageUp => offset - 10
  | .pageDown => offset + 10
  | _ => offset

end Keystroke

/-- Chords have characters, so a key without one is free. -/
theorem Bindings.route_eq_none_of_scrolls (b : Bindings) {k : Keystroke} (hk : k.Scrolls) (focus : Focus) :
    b.route k focus = none := by
  refine Option.eq_none_iff_forall_ne_some.2 fun side hside => ?_
  obtain ⟨chord, -, hplays⟩ := exists_of_route hside
  rw [Keystroke.Scrolls, hplays.1] at hk
  simp at hk

namespace App

section Scroll

variable {a : App} (ho : a.openSide? = none)
include ho

theorem press_scroll {k : Keystroke} (hk : k.Scrolls) : a.press k = { a with scroll := k.scrolled a.scroll } := by
  have hcommand : a.press k = a.pressCommand k := by
    rw [press, ho]
    dsimp only
    rw [a.bindings.route_eq_none_of_scrolls hk]
  rw [hcommand, pressCommand, Keystroke.scrolled]
  simp only [Keystroke.Scrolls, List.mem_cons, List.not_mem_nil, or_false] at hk
  rcases hk with hk | hk | hk | hk <;> rw [hk]

theorem run_scroll {ks : List Keystroke} (hks : ∀ k ∈ ks, k.Scrolls) :
    a.run (ks.map .key) = { a with scroll := ks.foldl Keystroke.scrolled a.scroll } := by
  induction ks generalizing a with
  | nil => rfl
  | cons k ks ih =>
    have hpress : a.press k = { a with scroll := k.scrolled a.scroll } := press_scroll ho (hks k List.mem_cons_self)
    have hclosed : (a.press k).openSide? = none := by rw [hpress]; exact ho
    calc a.run ((k :: ks).map .key)
        = (a.press k).run (ks.map .key) := rfl
      _ = { a.press k with scroll := ks.foldl Keystroke.scrolled (a.press k).scroll } :=
        ih hclosed fun k' hk' => hks k' (List.mem_cons_of_mem k hk')
      _ = _ := by rw [hpress]; rfl

end Scroll

/-! ### The main statement -/

/-- The line of the comparison at the top of an area of this height, if a comparison is shown. -/
def topLine? (a : App) (height : Nat) : Option Nat :=
  match a.page.status with
  | .ready r => some (View.firstVisible (View.reportLines r).length height a.scroll)
  | _ => none

section TopLine

variable {a : App} {r : Report} (hr : a.page.status = .ready r) (height : Nat)
include hr

theorem topLine?_of_ready :
    a.topLine? height = some (View.firstVisible (View.reportLines r).length height a.scroll) := by
  rw [topLine?, hr]

theorem topLine?_press (ho : a.openSide? = none) {k : Keystroke} (hk : k.Scrolls) :
    (a.press k).topLine? height =
      some (View.firstVisible (View.reportLines r).length height (k.scrolled a.scroll)) := by
  have hready : (a.press k).page.status = .ready r := by
    rw [press_scroll ho hk]
    exact hr
  rw [topLine?_of_ready hready, press_scroll ho hk]

end TopLine

/-- **A key that scrolls up uses up the excess of the offset first.** Let a comparison be shown, let no picker be open,
and let any keys that scroll be pressed, in any number and order. They change the offset and nothing else. Let the line
`k` be at the top then, and not the first one. Up moves the view up by one line if the offset has no excess, and else
not at all. PageUp moves it up by ten lines, or to the top if there are fewer above, exactly if there is no excess, or
if the excess takes up no more of the ten lines than are not needed, and just those where the lines count beyond the
limit. -/
theorem topLine_press_up {a : App} {r : Report} (hr : a.page.status = .ready r) (ho : a.openSide? = none)
    {ks : List Keystroke} (hks : ∀ k ∈ ks, k.Scrolls) {height k : Nat}
    (htop : (a.run (ks.map .key)).topLine? height = some k) (hk : 0 < k) :
    let b := a.run (ks.map .key)
    let lines := (View.reportLines r).length
    let offset := ks.foldl Keystroke.scrolled a.scroll
    let excess := View.excess lines height offset
    b = { a with scroll := offset } ∧
    (∀ key : Keystroke, key.key = .up → (b.press key).topLine? height = some (if excess = 0 then k - 1 else k)) ∧
    (∀ key : Keystroke, key.key = .pageUp → ((b.press key).topLine? height = some (k - 10) ↔
      if 10 ≤ k then excess = 0
      else if View.reached lines height offset < View.scrollLimit then k + excess ≤ 10
      else k + excess = 10)) := by
  intro b lines offset excess
  have hb : b = { a with scroll := offset } := run_scroll ho hks
  have hready : b.page.status = .ready r := by rw [hb]; exact hr
  have hclosed : b.openSide? = none := by rw [hb]; exact ho
  have hscroll : b.scroll = offset := by rw [hb]
  have hfirst := topLine?_of_ready hready height
  rw [hscroll] at hfirst
  obtain rfl : View.firstVisible lines height offset = k := Option.some.inj (hfirst.symm.trans htop)
  refine ⟨hb, fun key hkey => ?_, fun key hkey => ?_⟩
  · have hpress := topLine?_press hready height hclosed (k := key) (by simp [Keystroke.Scrolls, hkey])
    rw [Keystroke.scrolled, hkey, hscroll] at hpress
    rw [hpress, Option.some_inj]
    by_cases hexcess : excess = 0
    · have hup := View.firstVisible_sub_iff Nat.one_pos (by decide) hk
      rw [if_pos (Nat.succ_le_of_lt hk)] at hup
      rw [if_pos hexcess, hup.2 hexcess]
    · rw [if_neg hexcess, View.firstVisible_sub_of_le (Nat.one_le_iff_ne_zero.2 hexcess)]
  · have hpress := topLine?_press hready height hclosed (k := key) (by simp [Keystroke.Scrolls, hkey])
    rw [Keystroke.scrolled, hkey, hscroll] at hpress
    rw [hpress, Option.some_inj]
    exact View.firstVisible_sub_iff (by decide) (by decide) hk

/-- A comparison of one metric, which takes four lines. -/
def oneMetric : Payload := ⟨"TPCC", "TPCC_FK", ⟨[("tps", ⟨1, 2⟩)], by decide⟩⟩

def showsOneMetric : App :=
  blank.run [.change (.oldRef "abc"), .outcome "" (.comparison 1 (.ok oneMetric))]

/-- PageDown goes beyond the last page of two lines by eight, and PageUp comes back to the first line. -/
theorem topLine_press_up_pageDown :
    let r := Report.ofPayload oneMetric
    let b := showsOneMetric.run [.key { key := .pageDown }]
    showsOneMetric.page.status = .ready r ∧ showsOneMetric.openSide? = none ∧ b.topLine? 2 = some 2 ∧
      (b.press { key := .pageUp }).topLine? 2 = some 0 := by
  intro r b
  have hr : showsOneMetric.page.status = .ready r := rfl
  have ho : showsOneMetric.openSide? = none := by decide +kernel
  have htop : b.topLine? 2 = some 2 := by decide +kernel
  have hks : ∀ k ∈ [({ key := .pageDown } : Keystroke)], k.Scrolls := by decide
  have hlines : (View.reportLines r).length = 4 := by decide +kernel
  obtain ⟨-, -, hpage⟩ := topLine_press_up hr ho hks htop Nat.two_pos
  rw [hlines] at hpage
  exact ⟨hr, ho, htop, (hpage _ rfl).2 (by decide +kernel)⟩

/-- Down is pressed once more than there are lines to scroll by, and then Up leaves the view where it is. -/
theorem topLine_press_up_stays :
    let b := showsOneMetric.run (List.replicate 3 (.key { key := .down }))
    start {} .foreignKeys "" = .ok blank ∧ (∃ r, b.page.status = .ready r) ∧ b.openSide? = none ∧
      b.topLine? 2 = some 2 ∧ (b.press { key := .up }).topLine? 2 = some 2 :=
  ⟨rfl, ⟨_, rfl⟩, by decide +kernel, by decide +kernel, by decide +kernel⟩

end App

end BenchCompare
