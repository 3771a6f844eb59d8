import BenchCompare.Proofs.Picker.Listing
import BenchCompare.View.PickerDialog

/-!
# What is seen of the list in the dialog

The list has a row for each entry and a heading where a group begins, and the area shows so many rows of it from
`listStart` on.

* `headings`: how many headings stand before and between entries. `exists_listRowsFrom_split`: where the row of the
  highlighted entry stands, and that no other row is highlighted.
* `headings_take_listed`: one heading stands before the branches of a list and one before its releases.
* `seen`, `drawList_eq_seen`: the rows that an area shows. `start_le_and_lt_iff`: when the highlighted row is one of
  them.

Main statement: `highlighted_row_seen`.
-/

namespace BenchCompare

open Screen

namespace Catalog

theorem length_listed_le (c : Catalog) (typed : String) : (c.listed typed).length ≤ c.size := by
  have hlength : c.entries.zipIdx.length = c.size := by simp [entries, size]
  rw [listed_eq_map_places, List.length_map, (c.perm_listedPlaces _).length_eq, ← hlength]
  exact List.length_filter_le _ _

end Catalog

namespace View

/-! ### Rows -/

/-- The heading of an entry that comes after an entry of the group `last`, if it has one. -/
def headingRows (last : Option Group) (e : Entry) : List ListRow :=
  if last = some e.group then [] else [.heading e.group]

def headings (last : Option Group) : List Entry → Nat
  | [] => 0
  | e :: es => (headingRows last e).length + headings (some e.group) es

section Rows

variable (highlight : Option Nat) (last : Option Group) (i : Nat) (e : Entry) (es : List Entry)

theorem listRowsFrom_cons : listRowsFrom highlight last i (e :: es) =
    headingRows last e ++ .entry e.ref (highlight == some i) :: listRowsFrom highlight (some e.group) (i + 1) es := by
  by_cases hlast : last = some e.group
  · simp [listRowsFrom, headingRows, hlast]
  · simp [listRowsFrom, headingRows, hlast]

theorem plain_headingRows : ∀ row ∈ headingRows last e, row.isHighlighted = false := by
  unfold headingRows
  split
  · exact fun _ hrow => absurd hrow List.not_mem_nil
  · exact List.forall_mem_singleton.2 rfl

variable {i}

theorem plain_listRowsFrom {j : Nat} (h : j < i) :
    ∀ row ∈ listRowsFrom (some j) last i es, row.isHighlighted = false := by
  induction es generalizing last i with
  | nil => exact fun _ hrow => absurd hrow List.not_mem_nil
  | cons e es ih =>
    have hother : ((some j : Option Nat) == some i) = false :=
      beq_eq_false_iff_ne.2 fun hji => absurd (Option.some.inj hji) (Nat.ne_of_lt h)
    rw [listRowsFrom_cons, hother]
    exact List.forall_mem_append.2 ⟨plain_headingRows last e,
      List.forall_mem_cons.2 ⟨rfl, ih (some e.group) (Nat.lt_succ_of_lt h)⟩⟩

variable {es}

/-- **The highlighted entry has the only highlighted row.** It stands below the rows of the entries before it and the
headings up to it. -/
theorem exists_listRowsFrom_split {k : Nat} (hk : k < es.length) (i : Nat) :
    ∃ before after, listRowsFrom (some (i + k)) last i es = before ++ .entry es[k].ref true :: after ∧
      before.length = k + headings last (es.take (k + 1)) ∧ ∀ row ∈ before ++ after, row.isHighlighted = false := by
  induction es generalizing last i k with
  | nil => exact absurd hk (Nat.not_lt_zero k)
  | cons e es ih =>
    cases k with
    | zero =>
      refine ⟨headingRows last e, listRowsFrom (some i) (some e.group) (i + 1) es, ?_, ?_, ?_⟩
      · rw [Nat.add_zero, listRowsFrom_cons, beq_self_eq_true]
        rfl
      · simp [headings]
      · exact List.forall_mem_append.2 ⟨plain_headingRows last e, plain_listRowsFrom _ es (Nat.lt_succ_self i)⟩
    | succ k =>
      obtain ⟨before, after, hsplit, hbefore, hplain⟩ := ih (some e.group) (Nat.lt_of_succ_lt_succ hk) (i + 1)
      have hindex : i + (k + 1) = i + 1 + k := by omega
      have hother : ((some (i + (k + 1)) : Option Nat) == some i) = false :=
        beq_eq_false_iff_ne.2 fun h => absurd (Option.some.inj h) (by omega)
      refine ⟨headingRows last e ++ .entry e.ref false :: before, after, ?_, ?_, ?_⟩
      · rw [listRowsFrom_cons, hother, hindex, hsplit]
        simp
      · rw [List.length_append, List.length_cons, hbefore, List.take_succ_cons, headings]
        omega
      · rw [List.append_assoc]
        exact List.forall_mem_append.2 ⟨plain_headingRows last e, List.forall_mem_cons.2 ⟨rfl, hplain⟩⟩

end Rows

/-! ### Headings of a list -/

theorem headings_append {es es' : List Entry} {g : Group} (hg : ∀ e ∈ es, e.group = g) (hne : es ≠ [])
    (last : Option Group) : headings last (es ++ es') = headings last es + headings (some g) es' := by
  induction es generalizing last with
  | nil => exact absurd rfl hne
  | cons e es ih =>
    obtain ⟨rfl, hes⟩ := List.forall_mem_cons.1 hg
    rw [List.cons_append, headings, headings]
    by_cases hnil : es = []
    · rw [hnil, List.nil_append, headings]
      omega
    · rw [ih hes hnil, Nat.add_assoc]

/-- Entries of one group have one heading, and none after an entry of the same group. -/
theorem headings_of_group {es : List Entry} {g : Group} (hg : ∀ e ∈ es, e.group = g) (hne : es ≠ [])
    (last : Option Group) : headings last es = if last = some g then 0 else 1 := by
  induction es generalizing last with
  | nil => exact absurd rfl hne
  | cons e es ih =>
    obtain ⟨rfl, hes⟩ := List.forall_mem_cons.1 hg
    have hrest : headings (some e.group) es = 0 := by
      by_cases hnil : es = []
      · rw [hnil, headings]
      · rw [ih hes hnil, if_pos rfl]
    rw [headings, hrest, headingRows]
    split <;> rfl

/-- Branches and the releases after them have one heading each. -/
theorem headings_take {branches releases : List Entry} (hb : ∀ e ∈ branches, e.group = .branches)
    (hr : ∀ e ∈ releases, e.group = .releases) {i : Nat} (hi : i < (branches ++ releases).length) :
    headings none ((branches ++ releases).take (i + 1)) =
      if (branches ++ releases)[i].group = .releases ∧ ∃ e ∈ branches ++ releases, e.group = .branches then 2
      else 1 := by
  by_cases hlt : i < branches.length
  · have hgroup : (branches ++ releases)[i].group = .branches := by
      rw [List.getElem_append_left hlt]
      exact hb _ (List.getElem_mem hlt)
    have htake : (branches ++ releases).take (i + 1) = branches.take (i + 1) := List.take_append_of_le_length hlt
    have hne : branches.take (i + 1) ≠ [] := List.ne_nil_of_length_pos (by rw [List.length_take]; omega)
    rw [htake, headings_of_group (fun e he => hb e (List.mem_of_mem_take he)) hne, hgroup]
    rfl
  · have hle : branches.length ≤ i := Nat.le_of_not_lt hlt
    have hplace : i - branches.length < releases.length := by
      rw [List.length_append] at hi
      omega
    have hgroup : (branches ++ releases)[i].group = .releases := by
      rw [List.getElem_append_right hle]
      exact hr _ (List.getElem_mem hplace)
    have htake : (branches ++ releases).take (i + 1) = branches ++ releases.take (i + 1 - branches.length) := by
      rw [List.take_append, List.take_of_length_le (by omega)]
    have hne : releases.take (i + 1 - branches.length) ≠ [] :=
      List.ne_nil_of_length_pos (by rw [List.length_take]; omega)
    have hreleases (last : Option Group) (hlast : last ≠ some .releases) :
        headings last (releases.take (i + 1 - branches.length)) = 1 := by
      rw [headings_of_group (fun e he => hr e (List.mem_of_mem_take he)) hne, if_neg hlast]
    rw [htake, hgroup]
    by_cases hnil : branches = []
    · subst hnil
      have hnone : ¬ ∃ e ∈ [] ++ releases, e.group = .branches := by
        rintro ⟨e, he, hbranch⟩
        rw [hr e he] at hbranch
        cases hbranch
      rw [List.nil_append, hreleases none (by decide), if_neg fun h => hnone h.2]
    · obtain ⟨e, he⟩ := List.exists_mem_of_ne_nil branches hnil
      rw [headings_append hb hnil, headings_of_group hb hnil, if_neg (by decide), hreleases _ (by decide),
        if_pos ⟨rfl, e, List.mem_append_left releases he, hb e he⟩]

/-- A list has one heading before its branches and one before its releases. -/
theorem headings_take_listed (c : Catalog) (typed : String) {i : Nat} (hi : i < (c.listed typed).length) :
    headings none ((c.listed typed).take (i + 1)) =
      if (c.listed typed)[i].group = .releases ∧ ∃ e ∈ c.listed typed, e.group = .branches then 2 else 1 := by
  have hgroup (g : Group) (refs : List Ref) : ∀ e ∈ refs.map (Entry.mk g), e.group = g :=
    List.forall_mem_map.2 fun _ _ => rfl
  exact headings_take (hgroup .branches _) (hgroup .releases _) hi

/-! ### The rows that are seen -/

/-- The rows that an area of this height shows. -/
def seen (rows : List ListRow) (height : Nat) : List ListRow := (rows.drop (listStart rows height)).take height

theorem paragraph_take (f : Frame) (a : Area) (lines : List Line) :
    f.paragraph a (lines.take a.height) = f.paragraph a lines := by
  rw [Frame.paragraph, Frame.paragraph, Frame.block, Frame.block, List.map_take, List.take_take, Nat.min_self]

theorem drawList_eq_seen (f : Frame) (a : Area) {rows : List ListRow} (hne : rows ≠ []) :
    drawList f a rows = f.paragraph a ((seen rows a.height).map ListRow.line) := by
  rw [drawList, if_neg (by simpa using hne), seen, List.map_take, paragraph_take]

section Seen

variable {rows before after : List ListRow} {ref : Ref} (hrows : rows = before ++ .entry ref true :: after)
  (hplain : ∀ row ∈ before ++ after, row.isHighlighted = false)
include hrows hplain

theorem filter_highlighted : rows.filter (·.isHighlighted) = [.entry ref true] := by
  obtain ⟨hbefore, hafter⟩ := List.forall_mem_append.1 hplain
  have hnone {l : List ListRow} (hl : ∀ row ∈ l, row.isHighlighted = false) : l.filter (·.isHighlighted) = [] :=
    List.filter_eq_nil_iff.2 fun row hrow => Bool.eq_false_iff.1 (hl row hrow)
  rw [hrows, List.filter_append, hnone hbefore, List.nil_append, List.filter_cons_of_pos rfl, hnone hafter]

theorem highlightedRow?_eq : highlightedRow? rows = some before.length := by
  have hnone : before.findIdx? (·.isHighlighted) = none :=
    List.findIdx?_eq_none_iff.2 fun row hrow => hplain row (List.mem_append_left after hrow)
  rw [highlightedRow?, hrows, List.findIdx?_append, hnone, List.findIdx?_cons]
  simp [ListRow.isHighlighted]

theorem listStart_eq {h : Nat} (hh : 0 < h) :
    listStart rows h = if h ≤ before.length then (before.length + 1 - h) % scrollLimit else 0 := by
  rw [listStart, highlightedRow?_eq hrows hplain]
  simp [hh]

/-- The highlighted row never stands above the rows that are seen, and below them only where the first of these would
have a number beyond the limit. -/
theorem start_le_and_lt_iff {h : Nat} (hh : 0 < h) :
    listStart rows h ≤ before.length ∧
      (before.length < listStart rows h + h ↔ before.length + 1 < h + scrollLimit) := by
  rw [listStart_eq hrows hplain hh]
  unfold scrollLimit
  split <;> omega

theorem getElem?_eq_and_highlighted_iff {j : Nat} :
    (∃ row, rows[j]? = some row ∧ row.isHighlighted = true) ↔ j = before.length := by
  obtain ⟨hbefore, hafter⟩ := List.forall_mem_append.1 hplain
  rw [hrows]
  constructor
  · rintro ⟨row, hrow, hhighlighted⟩
    rcases Nat.lt_trichotomy j before.length with hlt | heq | hgt
    · rw [List.getElem?_append_left hlt] at hrow
      rw [hbefore row (List.mem_of_getElem? hrow)] at hhighlighted
      cases hhighlighted
    · exact heq
    · obtain ⟨n, hn⟩ : ∃ n, j - before.length = n + 1 := ⟨j - before.length - 1, by omega⟩
      rw [List.getElem?_append_right (Nat.le_of_lt hgt), hn, List.getElem?_cons_succ] at hrow
      rw [hafter row (List.mem_of_getElem? hrow)] at hhighlighted
      cases hhighlighted
  · rintro rfl
    exact ⟨.entry ref true, by simp, rfl⟩

/-- Of the rows that are seen, one is highlighted exactly if the highlighted row stands among them. -/
theorem exists_highlighted_iff (h : Nat) : (∃ row ∈ seen rows h, row.isHighlighted = true) ↔
    listStart rows h ≤ before.length ∧ before.length < listStart rows h + h := by
  constructor
  · rintro ⟨row, hrow, hhighlighted⟩
    obtain ⟨j, hj⟩ := List.mem_iff_getElem?.1 hrow
    have hlt : j < h := by
      have hlength := (List.getElem?_eq_some_iff.1 hj).1
      rw [seen, List.length_take] at hlength
      omega
    rw [seen, List.getElem?_take_of_lt hlt, List.getElem?_drop] at hj
    have hplace := (getElem?_eq_and_highlighted_iff hrows hplain).1 ⟨row, hj, hhighlighted⟩
    omega
  · rintro ⟨hle, hlt⟩
    obtain ⟨row, hrow, hhighlighted⟩ := (getElem?_eq_and_highlighted_iff hrows hplain).2 rfl
    refine ⟨row, List.mem_iff_getElem?.2 ⟨before.length - listStart rows h, ?_⟩, hhighlighted⟩
    rw [seen, List.getElem?_take_of_lt (by omega), List.getElem?_drop, Nat.add_sub_of_le hle, hrow]

end Seen

/-! ### The main statement -/

/-- **The highlighted row is seen unless the rows above it count beyond the limit.** Let the highlight of a picker be
the place `i` in its list, and let the list have an area of at least one row. Exactly one row is highlighted, that of
the entry at this place. It stands below the rows of the entries before it, the heading of its group and the one of the
group before. It never stands above the rows that are seen. It is one of them exactly if no more than `h + 65534` rows
stand above it, and so in every catalog of up to 65534 entries. -/
theorem highlighted_row_seen (p : Picker) (c : Catalog) {h i : Nat} (hh : 0 < h) (hi : p.highlight = some i)
    (hlt : i < (c.listed p.input).length) :
    let entries := c.listed p.input
    let rows := listRows entries p.highlight
    let start := listStart rows h
    let line := i + if entries[i].group = .releases ∧ ∃ e ∈ entries, e.group = .branches then 2 else 1
    rows.filter (·.isHighlighted) = [.entry entries[i].ref true] ∧
    rows[line]? = some (.entry entries[i].ref true) ∧
    start ≤ line ∧
    (line < start + h ↔ line + 1 < h + scrollLimit) ∧
    ((∃ row ∈ seen rows h, row.isHighlighted = true) ↔ line + 1 < h + scrollLimit) ∧
    (∀ (f : Frame) (a : Area), a.height = h → drawList f a rows = f.paragraph a ((seen rows h).map ListRow.line)) ∧
    (c.size + 2 ≤ scrollLimit → line + 1 < h + scrollLimit) := by
  intro entries rows start line
  obtain ⟨before, after, hsplit, hlength, hplain⟩ := exists_listRowsFrom_split none hlt 0
  have hrows : rows = before ++ .entry entries[i].ref true :: after := by
    rw [← hsplit, Nat.zero_add, ← hi]
    rfl
  have hline : before.length = line := by rw [hlength, headings_take_listed]
  obtain ⟨hstart, hwindow⟩ := start_le_and_lt_iff hrows hplain hh
  have hseen := exists_highlighted_iff hrows hplain h
  rw [hline] at hstart hwindow hseen
  refine ⟨filter_highlighted hrows hplain, ?_, hstart, hwindow, hseen.trans ?_, ?_, ?_⟩
  · rw [← hline, hrows]
    simp
  · rw [and_iff_right hstart, hwindow]
  · rintro f a rfl
    exact drawList_eq_seen f a (by rw [hrows]; simp)
  · intro hsize
    have hlength := c.length_listed_le p.input
    have hle : line ≤ i + 2 := by
      refine Nat.add_le_add_left ?_ i
      split <;> omega
    omega

/-- In an area of two rows the list is scrolled to the last entry, below both headings. -/
theorem highlighted_row_seen_release :
    let c : Catalog := { branches := [⟨"main", "abc"⟩, ⟨"dev", "abd"⟩], releases := [⟨"v1", "def"⟩] }
    let p : Picker := { side := .old, isOpen := true, highlight := some 2 }
    0 < 2 ∧ p.highlight = some 2 ∧ 2 < (c.listed p.input).length ∧
      ∃ row ∈ seen (listRows (c.listed p.input) p.highlight) 2, row.isHighlighted = true := by
  intro c p
  have hlt : 2 < (c.listed p.input).length := by
    rw [c.listed_of_blank (by decide)]
    decide
  obtain ⟨-, -, -, -, hseen, -, hsmall⟩ := highlighted_row_seen p c Nat.two_pos rfl hlt
  exact ⟨Nat.two_pos, rfl, hlt, hseen.2 (hsmall (by decide))⟩

/-- Where the last of some branches has a number that is a multiple of the limit, the list is not scrolled. -/
theorem seen_last_branch (r : Ref) {n : Nat} (hn : (n + 1) % scrollLimit = 0) :
    seen (listRows (List.replicate (n + 1) ⟨.branches, r⟩) (some n)) 1 = [.heading .branches] := by
  have hlt : n < (List.replicate (n + 1) (⟨.branches, r⟩ : Entry)).length := by simp
  obtain ⟨before, after, hsplit, hlength, hplain⟩ := exists_listRowsFrom_split none hlt 0
  rw [Nat.zero_add] at hsplit
  have hgroup : headings none (List.replicate (n + 1) (⟨.branches, r⟩ : Entry)) = 1 :=
    headings_of_group (fun e he => by rw [List.eq_of_mem_replicate he]) (List.ne_nil_of_length_pos (by simp)) none
  have hbefore : before.length = n + 1 := by
    rw [hlength, List.take_of_length_le (by simp), hgroup]
  have hstart : listStart (listRows (List.replicate (n + 1) ⟨.branches, r⟩) (some n)) 1 = 0 := by
    rw [listRows, listStart_eq hsplit hplain Nat.one_pos, hbefore, if_pos (by omega), Nat.add_sub_cancel, hn]
  rw [seen, hstart, List.drop_zero, listRows, List.replicate_succ, listRowsFrom_cons]
  rfl

/-- Up leads to the last of 65536 branches, and the only row that is seen is the heading. -/
theorem highlighted_row_hidden :
    let c : Catalog := { branches := List.replicate 65536 ⟨"v", "c"⟩ }
    let p := (Picker.activate { side := .old }).moveUp (some c)
    p.highlight = some 65535 ∧ 65535 < (c.listed p.input).length ∧
      seen (listRows (c.listed p.input) p.highlight) 1 = [.heading .branches] := by
  intro c p
  have hlisted : c.listed "" = List.replicate 65536 ⟨.branches, ⟨"v", "c"⟩⟩ := by
    rw [c.listed_of_blank (by decide), Catalog.entries, List.map_replicate]
    exact List.append_nil _
  have hlength : (c.listed "").length = 65536 := by rw [hlisted, List.length_replicate]
  have hhighlight : p.highlight = some 65535 := congrArg (Picker.above · none) hlength
  have hinput : p.input = "" := rfl
  rw [hinput, hhighlight, hlength, hlisted]
  exact ⟨rfl, by decide, seen_last_branch _ (by decide)⟩

end View

end BenchCompare
