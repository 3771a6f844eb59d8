import BenchCompare.View.PickerDialog

/-!
# What the dialog leaves alone

Whatever is drawn in an area leaves the cells outside as they were.

* `Area.Has a x y`: the cell is in the area. `Frame.SameOutside a f f'`: the frames have one size, and the same cells
  outside the area.
* `sameOutside_set`, `sameOutside_foldl`: one cell, and one step after the other. From these the drawing operations
  have it, `sameOutside_block` for lines of text and `sameOutside_box` for a border with its title.

Main statement: `sameOutside_drawPicker`.
-/

namespace BenchCompare

namespace Screen

/-! ### Areas -/

def Area.Has (a : Area) (x y : Nat) : Prop := (a.x ≤ x ∧ x < a.right) ∧ a.y ≤ y ∧ y < a.bottom

theorem Area.has_of_has_inner {a : Area} {x y : Nat} (h : a.inner.Has x y) : a.Has x y := by
  simp only [Has, inner, right, bottom] at h ⊢
  omega

theorem Area.has_of_has_top {a : Area} {n x y : Nat} (h : (a.top n).Has x y) : a.Has x y := by
  simp only [Has, top, right, bottom] at h ⊢
  omega

theorem Area.has_of_has_belowTop {a : Area} {n x y : Nat} (h : (a.belowTop n).Has x y) : a.Has x y := by
  simp only [Has, belowTop, right, bottom] at h ⊢
  omega

/-! ### Pieces that fit -/

namespace Piece

theorem totalWidth_fit_le (room : Nat) (ps : List Piece) : totalWidth (fit room ps) ≤ room := by
  induction ps generalizing room with
  | nil => exact Nat.zero_le _
  | cons p ps ih =>
    unfold fit
    split
    · have hrest := ih (room - p.width)
      simp only [totalWidth, List.foldr_cons] at hrest ⊢
      omega
    · exact Nat.zero_le _

theorem fit_sublist (room : Nat) (ps : List Piece) : (fit room ps).Sublist ps := by
  induction ps generalizing room with
  | nil => exact .slnil
  | cons p ps ih =>
    unfold fit
    split
    · exact (ih _).cons_cons p
    · exact List.nil_sublist _

theorem width_pos_of_mem_visible {columns : Nat} {ps : List Piece} : ∀ p ∈ visible columns ps, 0 < p.width := by
  intro p hp
  have hkept := (List.mem_filter.1 ((fit_sublist _ _).subset hp)).2
  simp only [Bool.and_eq_true, decide_eq_true_eq] at hkept
  exact hkept.1

end Piece

namespace Frame

/-! ### Cells -/

theorem get_set_of_ne (f : Frame) {x y x' y' : Nat} (c : Cell) (hx' : x' < f.width) (hne : ¬ (x' = x ∧ y' = y)) :
    (f.set x y c).get x' y' = f.get x' y' := by
  unfold set
  split
  · next hx =>
    have hindex : y * f.width + x ≠ y' * f.width + x' := by
      intro heq
      have hcolumn : x = x' := by
        have hmod := congrArg (· % f.width) heq
        simp only [Nat.mul_add_mod', Nat.mod_eq_of_lt hx, Nat.mod_eq_of_lt hx'] at hmod
        exact hmod
      have hrow : y * f.width = y' * f.width := by omega
      exact hne ⟨hcolumn.symm, (Nat.eq_of_mul_eq_mul_right (Nat.zero_lt_of_lt hx) hrow).symm⟩
    rw [get, get, Array.getElem?_setIfInBounds_ne hindex]
  · rfl

/-- The frames have one size, and the same cells outside an area. -/
structure SameOutside (a : Area) (f f' : Frame) : Prop where
  width_eq : f'.width = f.width
  height_eq : f'.height = f.height
  get_eq : ∀ {x y}, x < f.width → ¬ a.Has x y → f'.get x y = f.get x y

section SameOutside

variable {a b : Area} {f f' f'' : Frame}

theorem SameOutside.refl (a : Area) (f : Frame) : SameOutside a f f := ⟨rfl, rfl, fun _ _ => rfl⟩

theorem SameOutside.trans (h : SameOutside a f f') (h' : SameOutside a f' f'') : SameOutside a f f'' where
  width_eq := h'.width_eq.trans h.width_eq
  height_eq := h'.height_eq.trans h.height_eq
  get_eq hx hout := (h'.get_eq (h.width_eq ▸ hx) hout).trans (h.get_eq hx hout)

theorem SameOutside.mono (h : SameOutside a f f') (hab : ∀ {x y}, a.Has x y → b.Has x y) : SameOutside b f f' :=
  ⟨h.width_eq, h.height_eq, fun hx hout => h.get_eq hx (mt hab hout)⟩

theorem sameOutside_set (f : Frame) {x y : Nat} (h : a.Has x y) (c : Cell) : SameOutside a f (f.set x y c) := by
  have hwidth : (f.set x y c).width = f.width := by unfold set; split <;> rfl
  have hheight : (f.set x y c).height = f.height := by unfold set; split <;> rfl
  refine ⟨hwidth, hheight, fun hx hout => get_set_of_ne f c hx ?_⟩
  rintro ⟨rfl, rfl⟩
  exact hout h

/-- What each of some steps leaves alone, all of them do. -/
theorem sameOutside_foldl {α : Type} {step : Frame → α → Frame} {l : List α}
    (h : ∀ f, ∀ i ∈ l, SameOutside a f (step f i)) (f : Frame) : SameOutside a f (l.foldl step f) := by
  induction l generalizing f with
  | nil => exact .refl a f
  | cons i l ih =>
    exact (h f i List.mem_cons_self).trans (ih (fun f j hj => h f j (List.mem_cons_of_mem i hj)) (step f i))

theorem sameOutside_setAll (f : Frame) {places : List (Nat × Nat)} (h : ∀ p ∈ places, a.Has p.1 p.2) (c : Cell) :
    SameOutside a f (f.setAll places c) :=
  sameOutside_foldl (fun f p hp => sameOutside_set f (h p hp) c) f

theorem sameOutside_clear (f : Frame) (a : Area) : SameOutside a f (f.clear a) := by
  refine sameOutside_setAll f (fun p hp => ?_) {}
  obtain ⟨j, hj, hp⟩ := List.mem_flatMap.1 hp
  obtain ⟨i, hi, rfl⟩ := List.mem_map.1 hp
  rw [List.mem_range] at hi hj
  simp only [Area.Has, Area.right, Area.bottom]
  omega

/-! ### Lines of text -/

theorem sameOutside_pieces (f : Frame) {x y : Nat} {ps : List Piece} (hpos : ∀ p ∈ ps, 0 < p.width)
    (hx : a.x ≤ x) (hfit : x + Piece.totalWidth ps ≤ a.right) (hy : a.y ≤ y ∧ y < a.bottom) :
    SameOutside a f (f.pieces x y ps) := by
  induction ps generalizing f x with
  | nil => exact .refl a f
  | cons p ps ih =>
    obtain ⟨hp, hps⟩ := List.forall_mem_cons.1 hpos
    have htotal : Piece.totalWidth (p :: ps) = p.width + Piece.totalWidth ps := rfl
    have hfirst : SameOutside a f (f.write x y p) := sameOutside_set f ⟨by omega, hy⟩ _
    exact hfirst.trans (ih _ hps (by omega) (by omega))

/-- Lines are drawn from the top of the area, each as far as it can be seen. -/
theorem sameOutside_block (f : Frame) (a : Area) (rows : List (List Piece)) : SameOutside a f (f.block a rows) := by
  refine sameOutside_foldl (fun f r hr => ?_) f
  have hrow : r.2 < a.height := by
    have hlt := (List.mem_zipIdx hr).2.1
    rw [List.length_take] at hlt
    omega
  have hfit : Piece.totalWidth (Piece.visible a.width r.1) ≤ a.width := Piece.totalWidth_fit_le _ _
  refine sameOutside_pieces f Piece.width_pos_of_mem_visible (Nat.le_refl _) (Nat.add_le_add_left hfit _) ?_
  rw [Area.bottom]
  omega

theorem sameOutside_paragraph (f : Frame) (a : Area) (lines : List Line) : SameOutside a f (f.paragraph a lines) :=
  sameOutside_block f a _

/-! ### Titles -/

section Title

variable {y : Nat} (hy : a.y ≤ y ∧ y < a.bottom)
include hy

theorem sameOutside_cover (f : Frame) {x : Nat} {p : Piece} (hx : a.x ≤ x) (hfit : x + p.width ≤ a.right) :
    SameOutside a f (f.cover x y p) := by
  refine sameOutside_setAll f (fun q hq => ?_) {}
  obtain ⟨i, hi, rfl⟩ := List.mem_map.1 hq
  rw [List.mem_range] at hi
  exact ⟨by dsimp only; omega, hy⟩

theorem sameOutside_spanRest (f : Frame) {left x stop : Nat} (ps : List Piece) (hstop : stop ≤ a.right)
    (hleft : a.x ≤ left ∧ left < stop) (hx : left ≤ x) : SameOutside a f (f.spanRest left x y stop ps) := by
  induction ps generalizing f x with
  | nil => exact .refl a f
  | cons p ps ih =>
    unfold spanRest
    split
    · exact .refl a f
    · next hfit =>
      have hdrawn : SameOutside a f (if x = left then f.append x y p
          else if p.width = 0 then f.append (x - 1) y p else f.write x y p) := by
        -- a piece of no width may stand at the stop, but it is added to a cell before it
        split
        · exact sameOutside_set f ⟨by omega, hy⟩ _
        split
        · exact sameOutside_set f ⟨by omega, hy⟩ _
        · exact sameOutside_set f ⟨by omega, hy⟩ _
      exact (hdrawn.trans (sameOutside_cover hy _ (by omega) (by omega))).trans (ih _ (by omega))

theorem sameOutside_span (f : Frame) {x stop : Nat} (s : Span) (hstop : stop ≤ a.right) (hx : a.x ≤ x ∧ x < stop) :
    SameOutside a f (f.span x y stop s) := by
  unfold span
  split
  · exact .refl a f
  · split
    · exact .refl a f
    · next hfit =>
      have hfirst := sameOutside_set (a := a) f (x := x) (y := y) ⟨by omega, hy⟩
      exact ((hfirst _).trans (sameOutside_cover hy _ hx.1 (by omega))).trans
        (sameOutside_spanRest hy _ _ hstop hx (by omega))

theorem sameOutside_spans (f : Frame) {x stop : Nat} (l : Line) (hstop : stop ≤ a.right) (hx : a.x ≤ x) :
    SameOutside a f (f.spans x y stop l) := by
  induction l generalizing f x with
  | nil => exact .refl a f
  | cons s l ih =>
    unfold spans
    split
    · exact ih f hx
    split
    · exact .refl a f
    · exact (sameOutside_span hy f s hstop ⟨hx, by omega⟩).trans (ih _ (by omega))

end Title

/-! ### Boxes -/

theorem sameOutside_border (f : Frame) (a : Area) : SameOutside a f (f.border a) := by
  unfold border
  split
  · exact .refl a f
  · next hempty =>
    simp only [Bool.or_eq_true, decide_eq_true_eq, not_or] at hempty
    have hcorner {x y : Nat} (hx : x = a.x ∨ x = a.right - 1) (hy : y = a.y ∨ y = a.bottom - 1) : a.Has x y := by
      simp only [Area.Has, Area.right, Area.bottom] at hx hy ⊢
      omega
    have hrows {x : Nat} (hx : x = a.x ∨ x = a.right - 1) :
        ∀ p ∈ ((List.range a.height).map (a.y + ·)).map fun y => (x, y), a.Has p.1 p.2 := by
      simp only [List.forall_mem_map, List.mem_range, Area.Has, Area.right, Area.bottom] at hx ⊢
      omega
    have hcolumns {y : Nat} (hy : y = a.y ∨ y = a.bottom - 1) :
        ∀ p ∈ ((List.range a.width).map (a.x + ·)).map fun x => (x, y), a.Has p.1 p.2 := by
      simp only [List.forall_mem_map, List.mem_range, Area.Has, Area.right, Area.bottom] at hy ⊢
      omega
    exact (sameOutside_setAll f (hrows (.inl rfl)) _).trans <|
      (sameOutside_setAll _ (hcolumns (.inl rfl)) _).trans <|
      (sameOutside_setAll _ (hrows (.inr rfl)) _).trans <|
      (sameOutside_setAll _ (hcolumns (.inr rfl)) _).trans <|
      (sameOutside_set _ (hcorner (.inr rfl) (.inr rfl)) _).trans <|
      (sameOutside_set _ (hcorner (.inr rfl) (.inl rfl)) _).trans <|
      (sameOutside_set _ (hcorner (.inl rfl) (.inr rfl)) _).trans <|
      sameOutside_set _ (hcorner (.inl rfl) (.inl rfl)) _

theorem sameOutside_box (f : Frame) (a : Area) (title : Line) : SameOutside a f (f.box a title) := by
  unfold box
  split
  · exact .refl a f
  · next hheight =>
    have hy : a.y ≤ a.y ∧ a.y < a.bottom := ⟨Nat.le_refl _, by rw [Area.bottom]; omega⟩
    exact (sameOutside_border f a).trans (sameOutside_spans hy _ title (by omega) (Nat.le_succ _))

end SameOutside

end Frame

end Screen

namespace View

open Screen

theorem sameOutside_drawList (f : Frame) (a : Area) (rows : List ListRow) : f.SameOutside a (drawList f a rows) := by
  unfold drawList
  split
  · exact Frame.sameOutside_paragraph f a _
  · exact Frame.sameOutside_paragraph f a _

/-- **The dialog of a picker leaves the screen around it as it is**, whatever is typed, listed or noted in it. -/
theorem sameOutside_drawPicker (f : Frame) (p : Picker) (catalog : Option Catalog) (note : Option String) :
    f.SameOutside f.area.dialog (drawPicker f p catalog note) := by
  let area := f.area.dialog
  have hinput {x y : Nat} (h : (area.inner.top 3).Has x y) : area.Has x y :=
    Area.has_of_has_inner (Area.has_of_has_top h)
  have hlist {x y : Nat} (h : (area.inner.belowTop 3).Has x y) : area.Has x y :=
    Area.has_of_has_inner (Area.has_of_has_belowTop h)
  have hdialog := (Frame.sameOutside_clear f area).trans
    (Frame.sameOutside_box (f.clear area) area [plain (p.side.label ++ " ref")])
  have hbox (f : Frame) : f.SameOutside area (f.box (area.inner.top 3) []) :=
    (Frame.sameOutside_box f _ []).mono hinput
  have htyped (f : Frame) (lines : List Line) : f.SameOutside area (f.paragraph (area.inner.top 3).inner lines) :=
    (Frame.sameOutside_paragraph f _ lines).mono fun h => hinput (Area.has_of_has_inner h)
  have hframe (lines : List Line) := (hdialog.trans (hbox _)).trans (htyped _ lines)
  cases catalog with
  | some c => exact (hframe _).trans ((sameOutside_drawList _ _ _).mono hlist)
  | none => exact (hframe _).trans ((Frame.sameOutside_block _ _ _).mono hlist)

end View

end BenchCompare
