import BenchCompare.Proofs.Query.Write

/-!
# Where pairs stand after writing

* `Kind.inputNames`: the names under which the inputs of a kind stand in a query string.
* `rewritten own before e`: what writing the pairs `own` makes of the pair `e` that comes after the pairs `before`.
* `revised own before ps`: what it makes of the pairs `ps`, each by all pairs that come before it.
* `missing own ps`: the own pairs whose names do not stand in `ps`.
* `overwrite_missing`, `overwrite_eq_revised`: overwriting revises every pair and puts the missing ones at the end.
* `filter_revised_of_notMem`, `filter_revised_of_lookup`: revising leaves pairs of other names alone, and leaves one
  pair of every own name that is there.

Main statement: `pairs_write_eq_revised`.
-/

namespace BenchCompare

/-- The names of the inputs in a query string, in the order in which missing ones are added. -/
def Kind.inputNames (kind : Kind) : List String := [kind.oldRefName, "new", "oldWorkload", "newWorkload"]

namespace Query

theorem map_fst_ownPairs (kind : Kind) (p : Params) : (ownPairs kind p).map (·.1) = kind.inputNames := rfl

/-- What writing makes of a pair. The first pair of an own name takes the new value, later ones go, and a pair of
another name stays as it is. -/
def rewritten (own before : List (String × String)) (e : String × String) : Option (String × String) :=
  match own.lookup e.1 with
  | none => some e
  | some v => if e.1 ∈ before.map (·.1) then none else some (e.1, v)

/-- What writing makes of a list of pairs that comes after the pairs `before`. -/
def revised (own before ps : List (String × String)) : List (String × String) :=
  ps.zipIdx.filterMap fun x => rewritten own (before ++ ps.take x.2) x.1

section Revised

variable {own : List (String × String)}

theorem revised_nil (before : List (String × String)) : revised own before [] = [] := rfl

theorem revised_cons (before : List (String × String)) (e : String × String) (ps : List (String × String)) :
    revised own before (e :: ps) = (rewritten own before e).toList ++ revised own (before ++ [e]) ps := by
  have htail : (ps.zipIdx.map (Prod.map id (· + 1))).filterMap
      (fun x => rewritten own (before ++ (e :: ps).take x.2) x.1) = revised own (before ++ [e]) ps := by
    rw [List.filterMap_map, revised]
    refine congrArg (List.filterMap · _) (funext fun x => ?_)
    show rewritten own (before ++ (e :: ps).take (x.2 + 1)) x.1 = _
    rw [List.take_succ_cons, List.append_assoc, List.singleton_append]
  rw [revised, List.zipIdx_cons', List.filterMap_cons, htail, List.take_zero, List.append_nil]
  cases rewritten own before e <;> rfl

/-! ### The three ways of rewriting a pair -/

theorem rewritten_of_notMem {before : List (String × String)} {e : String × String} (h : e.1 ∉ own.map (·.1)) :
    rewritten own before e = some e := by
  rw [rewritten, lookup_eq_none_iff_notMem.2 h]

theorem rewritten_of_mem_before {before : List (String × String)} {e : String × String} (h : e.1 ∈ own.map (·.1))
    (hb : e.1 ∈ before.map (·.1)) : rewritten own before e = none := by
  obtain ⟨v, hv⟩ := Option.ne_none_iff_exists'.1 fun hn => lookup_eq_none_iff_notMem.1 hn h
  simp only [rewritten, hv, if_pos hb]

theorem rewritten_of_lookup {before : List (String × String)} {name value v : String} (h : own.lookup name = some v)
    (hb : name ∉ before.map (·.1)) : rewritten own before (name, value) = some (name, v) := by
  simp only [rewritten, h, if_neg hb]

/-! ### Missing pairs -/

theorem mem_fst_concat {k : String} {before : List (String × String)} {e : String × String} :
    k ∈ (before ++ [e]).map (·.1) ↔ k ∈ before.map (·.1) ∨ k = e.1 := by simp

/-- The own pairs whose names do not stand in a list of pairs. -/
def missing (own ps : List (String × String)) : List (String × String) :=
  own.filter fun e => e.1 ∉ ps.map (·.1)

theorem lookup_missing (k : String) (ps : List (String × String)) :
    (missing own ps).lookup k = if k ∈ ps.map (·.1) then none else own.lookup k := by
  rw [missing, lookup_filter (fun name => decide (name ∉ ps.map (·.1)))]
  by_cases h : k ∈ ps.map (·.1) <;> simp only [h, not_true, not_false_eq_true, decide_true, decide_false, if_true,
    if_false, Bool.false_eq_true]

/-- A pair that brings no new own name leaves the same ones missing. -/
theorem missing_concat_of_old {before : List (String × String)} {e : String × String}
    (h : e.1 ∈ own.map (·.1) → e.1 ∈ before.map (·.1)) : missing own (before ++ [e]) = missing own before := by
  refine List.filter_congr fun a ha => ?_
  have hown : a.1 ∈ own.map (·.1) := List.mem_map_of_mem ha
  rw [decide_eq_decide, mem_fst_concat, or_iff_left_of_imp]
  intro heq
  rw [heq] at hown ⊢
  exact h hown

theorem missing_concat (before : List (String × String)) (e : String × String) :
    missing own (before ++ [e]) = (missing own before).filter (·.1 != e.1) := by
  rw [missing, missing, List.filter_filter]
  refine List.filter_congr fun a _ => ?_
  rw [Bool.eq_iff_iff]
  simp [and_comm]

/-! ### Overwriting is revising -/

/-- The names whose values have been written are the own names among the pairs before. -/
def Marks (own before : List (String × String)) (done : List String) : Prop :=
  ∀ k, k ∈ done ↔ k ∈ own.map (·.1) ∧ k ∈ before.map (·.1)

section Marks

variable {before : List (String × String)} {done : List String} {e : String × String}

theorem Marks.concat_of_old (hm : Marks own before done) (h : e.1 ∈ own.map (·.1) → e.1 ∈ before.map (·.1)) :
    Marks own (before ++ [e]) done := by
  intro k
  rw [hm k, mem_fst_concat]
  refine and_congr_right fun hk => (or_iff_left_of_imp ?_).symm
  rintro rfl
  exact h hk

theorem Marks.concat (hm : Marks own before done) (h : e.1 ∈ own.map (·.1)) :
    Marks own (before ++ [e]) (e.1 :: done) := by
  intro k
  rw [List.mem_cons, hm k, mem_fst_concat]
  by_cases hk : k = e.1
  · simp [hk, h]
  · simp [hk]

end Marks

/-- **Overwriting revises every pair and puts the missing ones at the end,** also after some pairs have been seen. -/
theorem overwrite_missing {before : List (String × String)} {done : List String} (hm : Marks own before done)
    (ps : List (String × String)) :
    overwrite (missing own before) done ps = revised own before ps ++ missing own (before ++ ps) := by
  induction ps generalizing before done with
  | nil => rw [overwrite, revised_nil, List.append_nil, List.nil_append]
  | cons e ps ih =>
    obtain ⟨name, value⟩ := e
    have hsplit : before ++ (name, value) :: ps = before ++ [(name, value)] ++ ps := by simp
    rw [revised_cons, overwrite, lookup_missing, hsplit, List.append_assoc]
    by_cases hown : name ∈ own.map (·.1)
    · by_cases hb : name ∈ before.map (·.1)
      · -- an own name that comes again
        have hold : name ∈ own.map (·.1) → name ∈ before.map (·.1) := fun _ => hb
        have hd : name ∈ done := (hm name).2 ⟨hown, hb⟩
        simp only [if_pos hb, if_pos hd, rewritten_of_mem_before (e := (name, value)) hown hb]
        rw [← ih (hm.concat_of_old (e := (name, value)) hold), missing_concat_of_old hold]
        rfl
      · -- an own name that comes first
        obtain ⟨v, hv⟩ := Option.ne_none_iff_exists'.1 fun hn => lookup_eq_none_iff_notMem.1 hn hown
        simp only [if_neg hb, hv, rewritten_of_lookup hv hb]
        rw [← ih (hm.concat (e := (name, value)) hown), missing_concat]
        rfl
    · -- another name
      have hold : name ∈ own.map (·.1) → name ∈ before.map (·.1) := fun h => absurd h hown
      have hd : name ∉ done := fun hd => hown ((hm name).1 hd).1
      simp only [lookup_eq_none_iff_notMem.2 hown, ite_self, if_neg hd, rewritten_of_notMem (e := (name, value)) hown]
      rw [← ih (hm.concat_of_old (e := (name, value)) hold), missing_concat_of_old hold]
      rfl

theorem overwrite_eq_revised (ps : List (String × String)) :
    overwrite own [] ps = revised own [] ps ++ missing own ps := by
  have hnone : missing own [] = own := List.filter_eq_self.2 (by simp)
  have h : overwrite (missing own []) [] ps = revised own [] ps ++ missing own ([] ++ ps) :=
    overwrite_missing (by simp [Marks]) ps
  rwa [hnone, List.nil_append] at h

example : overwrite [("old", "v"), ("new", "w")] [] [("x", "1"), ("old", "a"), ("x", "2"), ("old", "b")] =
    [("x", "1"), ("old", "v"), ("x", "2"), ("new", "w")] := by decide

/-! ### What revising leaves -/

theorem fst_of_rewritten {before : List (String × String)} {e e' : String × String}
    (h : rewritten own before e = some e') : e'.1 = e.1 := by
  unfold rewritten at h
  split at h
  · rw [Option.some.inj h]
  · split at h
    · cases h
    · rw [← Option.some.inj h]

theorem filter_rewritten_of_not {q : String → Bool} (before : List (String × String)) {e : String × String}
    (h : q e.1 = false) : (rewritten own before e).toList.filter (fun x => q x.1) = [] := by
  rw [List.filter_eq_nil_iff]
  intro e' he'
  rw [fst_of_rewritten (Option.mem_toList.1 he'), h]
  decide

/-- Pairs of other names stay as they are, in their order. -/
theorem filter_revised_of_notMem (before ps : List (String × String)) :
    (revised own before ps).filter (·.1 ∉ own.map (·.1)) = ps.filter (·.1 ∉ own.map (·.1)) := by
  induction ps generalizing before with
  | nil => rfl
  | cons e ps ih =>
    rw [revised_cons, List.filter_append, ih]
    by_cases hown : e.1 ∈ own.map (·.1)
    · rw [filter_rewritten_of_not (q := fun name => decide (name ∉ own.map (·.1))) before (by simpa using hown),
        List.filter_cons_of_neg (by simpa using hown), List.nil_append]
    · rw [rewritten_of_notMem hown, List.filter_cons_of_pos (by simpa using hown), Option.toList_some,
        List.filter_cons_of_pos (by simpa using hown), List.filter_nil, List.singleton_append]

/-- Of the pairs of an own name only the first one is left, with the new value. -/
theorem filter_revised_of_lookup {k v : String} (h : own.lookup k = some v) (before ps : List (String × String)) :
    (revised own before ps).filter (·.1 = k) =
      if k ∈ before.map (·.1) ∨ k ∉ ps.map (·.1) then [] else [(k, v)] := by
  induction ps generalizing before with
  | nil => simp [revised_nil]
  | cons e ps ih =>
    obtain ⟨name, value⟩ := e
    rw [revised_cons, List.filter_append, ih]
    by_cases hk : name = k
    · subst hk
      have hown : name ∈ own.map (·.1) := by
        obtain ⟨front, back, rfl, -⟩ := List.lookup_eq_some_iff.1 h
        simp
      by_cases hb : name ∈ before.map (·.1)
      · rw [rewritten_of_mem_before hown hb, if_pos (by simp), if_pos (.inl hb)]
        rfl
      · rw [rewritten_of_lookup h hb, if_pos (by simp), if_neg (by simp [hb])]
        simp
    · rw [filter_rewritten_of_not (q := fun name => decide (name = k)) before (by simpa using hk), List.nil_append]
      simp only [List.map_append, List.map_cons, List.map_nil, List.mem_append, List.mem_cons, List.not_mem_nil,
        Ne.symm hk, or_false, false_or]

/-! ### Own pairs -/

theorem exists_append_of_mem {e : String × String} (hnd : (own.map (·.1)).Nodup) (he : e ∈ own) :
    ∃ front back, own = front ++ e :: back ∧ (∀ a ∈ front, a.1 ≠ e.1) ∧ ∀ a ∈ back, a.1 ≠ e.1 := by
  obtain ⟨front, back, rfl⟩ := List.append_of_mem he
  rw [List.map_append, List.map_cons, List.nodup_append, List.nodup_cons] at hnd
  obtain ⟨-, ⟨hback, -⟩, hfront⟩ := hnd
  refine ⟨front, back, rfl, ?_, ?_⟩
  · intro a ha
    exact hfront a.1 (List.mem_map_of_mem ha) e.1 List.mem_cons_self
  · intro a ha heq
    exact hback (heq ▸ List.mem_map_of_mem ha)

theorem lookup_of_mem {e : String × String} (hnd : (own.map (·.1)).Nodup) (he : e ∈ own) :
    own.lookup e.1 = some e.2 := by
  obtain ⟨front, back, rfl, hfront, -⟩ := exists_append_of_mem hnd he
  exact List.lookup_eq_some_iff.2 ⟨front, back, rfl, fun a ha => by simpa using (hfront a ha).symm⟩

theorem filter_missing_of_mem {e : String × String} (hnd : (own.map (·.1)).Nodup) (he : e ∈ own)
    (ps : List (String × String)) :
    (missing own ps).filter (·.1 = e.1) = if e.1 ∈ ps.map (·.1) then [] else [e] := by
  obtain ⟨front, back, rfl, hfront, hback⟩ := exists_append_of_mem hnd he
  have hnone : ∀ l : List (String × String), (∀ a ∈ l, a.1 ≠ e.1) →
      (missing l ps).filter (·.1 = e.1) = [] := by
    intro l hl
    rw [List.filter_eq_nil_iff]
    intro a ha
    simpa using hl a (List.mem_filter.1 ha).1
  have hsplit : missing (front ++ e :: back) ps = missing front ps ++ (missing [e] ps ++ missing back ps) := by
    simp only [missing, ← List.filter_append, List.singleton_append]
  rw [hsplit, List.filter_append, List.filter_append, hnone front hfront, hnone back hback]
  by_cases h : e.1 ∈ ps.map (·.1)
  · rw [if_pos h, missing, List.filter_cons_of_neg (by simpa using h)]
    rfl
  · rw [if_neg h, missing, List.filter_cons_of_pos (by simpa using h)]
    simp

end Revised

/-- **Writing edits the pairs of its own names only.** The pairs of a written query are those of the query before,
each revised where it stands, and then the own pairs that were missing, in the order of the names. So the pairs of
other names are the same, and there is one pair for each input, which holds the new value. -/
theorem pairs_write_eq_revised (kind : Kind) (query : String) (p : Params) :
    let before := pairs query
    let after := pairs (write kind query p)
    after = revised (ownPairs kind p) [] before ++ (ownPairs kind p).filter (·.1 ∉ before.map (·.1)) ∧
    after.filter (·.1 ∉ kind.inputNames) = before.filter (·.1 ∉ kind.inputNames) ∧
    ∀ e ∈ ownPairs kind p, after.filter (·.1 = e.1) = [e] := by
  intro before after
  have hafter : after = revised (ownPairs kind p) [] before ++ missing (ownPairs kind p) before :=
    (pairs_write kind query p).trans (overwrite_eq_revised before)
  refine ⟨hafter, ?_, ?_⟩
  · have hmissing : (missing (ownPairs kind p) before).filter (·.1 ∉ kind.inputNames) = [] := by
      rw [List.filter_eq_nil_iff]
      intro e he
      have hown : e.1 ∈ kind.inputNames := List.mem_map_of_mem (List.mem_filter.1 he).1
      simpa using hown
    rw [hafter, List.filter_append, hmissing, List.append_nil, ← map_fst_ownPairs kind p]
    exact filter_revised_of_notMem [] before
  · intro e he
    have hnd := nodup_ownPairs kind p
    rw [hafter, List.filter_append, filter_revised_of_lookup (lookup_of_mem hnd he), filter_missing_of_mem hnd he]
    by_cases h : e.1 ∈ before.map (·.1) <;> simp [h]

theorem pairs_write_repeated :
    ("old", "c") ∈ ownPairs .macrobench { oldRef := "c" } ∧
    (pairs (write .macrobench "old=a&x=1&old=b" { oldRef := "c" })).filter (·.1 = "old") = [("old", "c")] := by
  have hown : ("old", "c") ∈ ownPairs .macrobench { oldRef := "c" } := by decide
  exact ⟨hown, (pairs_write_eq_revised .macrobench "old=a&x=1&old=b" { oldRef := "c" }).2.2 _ hown⟩

end Query

end BenchCompare
