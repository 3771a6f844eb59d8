import BenchCompare.Proofs.Query.Form
import BenchCompare.Query.Basic

/-!
# Writing inputs into a query string

* `pairs_encode`: the pairs of a query string that was made from pairs. Nothing of it is blank or a question
  mark, so `clean` leaves it alone.
* `lookup_overwrite`, `lookup_overwrite_of_none`: after `overwrite`, every own name has its new value, and the first
  pair of any other name is the one that was first before.
* `overwrite_overwrite`: of two overwritings of the same names, only the second one counts.
* `pairs_write`, `write_write`, `ofPairs_overwrite`: the same for `write` and `read`.

Main statements: `read_write`, `write_last_wins`.
-/

namespace BenchCompare.Query

/-! ### Query strings made from pairs -/

theorem isBlank_of_isWritten {c : Char} (h : Form.IsWritten c ∨ c = '=' ∨ c = '&') : Text.isBlank c = false := by
  rcases h with (h | rfl | rfl) | rfl | rfl
  · simp only [Form.isUnreserved, Bool.or_eq_true, Bool.and_eq_true, decide_eq_true_eq, beq_iff_eq] at h
    simp only [Text.isBlank, Bool.or_eq_false_iff, Bool.and_eq_false_iff, decide_eq_false_iff_not, beq_eq_false_iff_ne]
    omega
  all_goals decide

theorem ne_question_of_isWritten {c : Char} (h : Form.IsWritten c ∨ c = '=' ∨ c = '&') : (c == '?') = false := by
  have hc : c ≠ '?' := by
    rintro rfl
    exact absurd h (by decide)
  simpa using hc

theorem clean_encode (ps : List (String × String)) : clean (Form.encode ps) = Form.encode ps := by
  have hw : ∀ c ∈ Form.encodePairs ps, Form.IsWritten c ∨ c = '=' ∨ c = '&' :=
    fun _ => Form.isWritten_of_mem_encodePairs
  rw [clean, Form.toList_encode, Text.trimChars_of_notBlank fun c hc => isBlank_of_isWritten (hw c hc),
    Text.dropWhile_of_forall_not fun c hc => ne_question_of_isWritten (hw c hc), Form.encode]

theorem pairs_encode (ps : List (String × String)) : pairs (Form.encode ps) = ps := by
  rw [pairs, clean_encode, Form.decode_encode]

/-! ### Looking up names -/

theorem lookup_cons_of_ne {k name : String} (h : k ≠ name) (value : String) (ps : List (String × String)) :
    ((name, value) :: ps).lookup k = ps.lookup k := by
  rw [List.lookup_cons, beq_false_of_ne h]

/-- Leaving out pairs by their names takes these names away and no other ones. -/
theorem lookup_filter (q : String → Bool) (k : String) (ps : List (String × String)) :
    (ps.filter fun e => q e.1).lookup k = if q k then ps.lookup k else none := by
  induction ps with
  | nil => simp
  | cons e ps ih =>
    obtain ⟨name, value⟩ := e
    rw [List.filter_cons]
    by_cases hk : k = name
    · subst hk
      by_cases hq : q k = true
      · rw [if_pos hq, if_pos hq, List.lookup_cons_self, List.lookup_cons_self]
      · rw [if_neg hq, ih, if_neg hq, if_neg hq]
    · rw [lookup_cons_of_ne hk, ← ih]
      split
      · exact lookup_cons_of_ne hk ..
      · rfl

theorem lookup_filter_of_ne {k name : String} (h : k ≠ name) (ps : List (String × String)) :
    (ps.filter (·.1 != name)).lookup k = ps.lookup k := by
  rw [lookup_filter (· != name), if_pos (by simpa using h)]

theorem lookup_eq_none_iff_notMem {k : String} {ps : List (String × String)} :
    ps.lookup k = none ↔ k ∉ ps.map (·.1) := by
  rw [List.lookup_eq_none_iff]
  simp only [bne_iff_ne, List.mem_map, not_exists, not_and]
  exact forall₂_congr fun e _ => ne_comm

theorem lookup_eq_none_congr {own own' : List (String × String)} (h : own.map (·.1) = own'.map (·.1)) (k : String) :
    own.lookup k = none ↔ own'.lookup k = none := by
  rw [lookup_eq_none_iff_notMem, lookup_eq_none_iff_notMem, h]

/-! ### Overwriting -/

section Overwrite

variable {own own' : List (String × String)}

theorem lookup_overwrite {k v : String} (done : List String) (ps : List (String × String))
    (h : own.lookup k = some v) : (overwrite own done ps).lookup k = some v := by
  induction ps generalizing own done with
  | nil => exact h
  | cons e ps ih =>
    obtain ⟨name, value⟩ := e
    rw [overwrite]
    split
    · next w hw =>
      by_cases hk : k = name
      · subst hk
        rw [List.lookup_cons_self, ← hw, h]
      · rw [lookup_cons_of_ne hk, ih _ (by rwa [lookup_filter_of_ne hk])]
    · next hw =>
      have hk : k ≠ name := by rintro rfl; simp [hw] at h
      split
      · exact ih done h
      · rw [lookup_cons_of_ne hk, ih done h]

theorem lookup_overwrite_of_none {k : String} {done : List String} (ps : List (String × String))
    (h : own.lookup k = none) (hd : k ∉ done) : (overwrite own done ps).lookup k = ps.lookup k := by
  induction ps generalizing own done with
  | nil => exact h
  | cons e ps ih =>
    obtain ⟨name, value⟩ := e
    rw [overwrite]
    split
    · next v hv =>
      have hk : k ≠ name := by rintro rfl; simp [h] at hv
      rw [lookup_cons_of_ne hk, lookup_cons_of_ne hk, ih (by rwa [lookup_filter_of_ne hk]) (by simp [hk, hd])]
    · split
      · next hname =>
        have hk : k ≠ name := by rintro rfl; exact hd hname
        rw [lookup_cons_of_ne hk, ih h hd]
      · by_cases hk : k = name
        · subst hk
          rw [List.lookup_cons_self, List.lookup_cons_self]
        · rw [lookup_cons_of_ne hk, lookup_cons_of_ne hk, ih h hd]

theorem map_filter_congr (h : own.map (·.1) = own'.map (·.1)) (name : String) :
    (own.filter (·.1 != name)).map (·.1) = (own'.filter (·.1 != name)).map (·.1) := by
  have hf : ∀ l : List (String × String),
      (l.filter (·.1 != name)).map (·.1) = (l.map (·.1)).filter (· != name) := by
    intro l
    rw [List.filter_map]
    rfl
  rw [hf, hf, h]

theorem overwrite_own (done : List String) (hnd : (own.map (·.1)).Nodup) (h : own.map (·.1) = own'.map (·.1)) :
    overwrite own' done own = own' := by
  induction own generalizing own' done with
  | nil =>
    rw [List.map_nil, eq_comm, List.map_eq_nil_iff] at h
    rw [overwrite, h]
  | cons e own ih =>
    obtain ⟨name, value⟩ := e
    obtain _ | ⟨⟨name', value'⟩, own'⟩ := own'
    · simp at h
    · obtain ⟨rfl, ht⟩ := List.cons.inj h
      obtain ⟨hname, hnd⟩ := List.nodup_cons.1 hnd
      have hrest : ((name, value') :: own').filter (·.1 != name) = own' := by
        rw [List.filter_cons_of_neg (by simp), List.filter_eq_self]
        intro e he
        have : e.1 ∈ own.map (·.1) := ht ▸ List.mem_map_of_mem he
        simpa using ne_of_mem_of_not_mem this hname
      rw [overwrite]
      simp only [List.lookup_cons_self]
      rw [hrest, ih _ hnd ht]

/-- **Of two overwritings of the same names only the second one counts.** -/
theorem overwrite_overwrite (done : List String) (ps : List (String × String)) (hnd : (own.map (·.1)).Nodup)
    (h : own.map (·.1) = own'.map (·.1)) :
    overwrite own' done (overwrite own done ps) = overwrite own' done ps := by
  induction ps generalizing own own' done with
  | nil => exact overwrite_own done hnd h
  | cons e ps ih =>
    obtain ⟨name, value⟩ := e
    have hnone := lookup_eq_none_congr h name
    rcases hv : own.lookup name with _ | v
    · have hv' := hnone.1 hv
      by_cases hd : name ∈ done
      · simp only [overwrite, hv, hv', hd, if_true]
        exact ih done hnd h
      · simp only [overwrite, hv, hv', hd, if_false]
        rw [ih done hnd h]
    · have hsome : own'.lookup name ≠ none := fun hn => by simp [hnone.2 hn] at hv
      obtain ⟨v', hv'⟩ := Option.ne_none_iff_exists'.1 hsome
      simp only [overwrite, hv, hv']
      rw [ih _ ((List.filter_sublist.map _).nodup hnd) (map_filter_congr h name)]

end Overwrite

/-! ### Writing and reading -/

theorem nodup_ownPairs (kind : Kind) (p : Params) : ((ownPairs kind p).map (·.1)).Nodup := by
  cases kind <;> simp [ownPairs, Kind.oldRefName]

theorem pairs_write (kind : Kind) (query : String) (p : Params) :
    pairs (write kind query p) = overwrite (ownPairs kind p) [] (pairs query) := pairs_encode _

/-- What was written before does not matter to the next writing. -/
theorem overwrite_pairs_write (kind : Kind) (query : String) (p p' : Params) :
    overwrite (ownPairs kind p') [] (pairs (write kind query p)) = overwrite (ownPairs kind p') [] (pairs query) := by
  rw [pairs_write]
  exact overwrite_overwrite [] _ (nodup_ownPairs kind p) rfl

theorem write_write (kind : Kind) (query : String) (p p' : Params) :
    write kind (write kind query p) p' = write kind query p' :=
  congrArg Form.encode (overwrite_pairs_write kind query p p')

/-- **Of several writings into a query only the last one counts,** to the letter. -/
theorem write_last_wins (kind : Kind) (query : String) (p : Params) :
    (∀ p', write kind (write kind query p') p = write kind query p) ∧
    ∀ earlier : List Params, (earlier ++ [p]).foldl (write kind) query = write kind query p := by
  refine ⟨fun p' => write_write kind query p' p, ?_⟩
  intro earlier
  induction earlier generalizing query with
  | nil => rfl
  | cons p' earlier ih => rw [List.cons_append, List.foldl_cons, ih, write_write]

/-- The inputs that a list of pairs holds. -/
def ofPairs (kind : Kind) (ps : List (String × String)) : Params :=
  { oldRef := ((ps.lookup kind.oldRefName).or (ps.lookup kind.oldRefAlias)).getD ""
    newRef := (ps.lookup "new").getD ""
    oldWorkload := (ps.lookup "oldWorkload").getD ""
    newWorkload := (ps.lookup "newWorkload").getD "" }

theorem read_eq_ofPairs (kind : Kind) (query : String) : read kind query = ofPairs kind (pairs query) := rfl

theorem lookup_oldRefName_ownPairs (kind : Kind) (p : Params) :
    (ownPairs kind p).lookup kind.oldRefName = some p.oldRef := by
  cases kind <;> rfl

/-- But for the old ref, both kinds read the same names. -/
theorem ofPairs_overwrite_of_oldRef {kind kind' : Kind} {p : Params} {ps : List (String × String)} {oldRef : String}
    (h : (ofPairs kind' (overwrite (ownPairs kind p) [] ps)).oldRef = oldRef) :
    ofPairs kind' (overwrite (ownPairs kind p) [] ps) = { p with oldRef } := by
  have hnew : (ownPairs kind p).lookup "new" = some p.newRef := by cases kind <;> rfl
  have holdW : (ownPairs kind p).lookup "oldWorkload" = some p.oldWorkload := by cases kind <;> rfl
  have hnewW : (ownPairs kind p).lookup "newWorkload" = some p.newWorkload := by cases kind <;> rfl
  subst h
  simp only [ofPairs, lookup_overwrite _ _ hnew, lookup_overwrite _ _ holdW, lookup_overwrite _ _ hnewW,
    Option.getD_some]

theorem ofPairs_overwrite (kind : Kind) (p : Params) (ps : List (String × String)) :
    ofPairs kind (overwrite (ownPairs kind p) [] ps) = p := by
  refine ofPairs_overwrite_of_oldRef ?_
  rw [ofPairs, lookup_overwrite _ _ (lookup_oldRefName_ownPairs kind p)]
  rfl

/-- **Inputs that are written into any query are read back from it.** -/
theorem read_write (kind : Kind) (query : String) (p : Params) : read kind (write kind query p) = p := by
  rw [read_eq_ofPairs, pairs_write, ofPairs_overwrite]

end BenchCompare.Query
