import BenchCompare.Proofs.Query.Write

/-!
# Queries on the page of the other kind

Each kind of page has its own name for the old ref, and reads the name of the other kind when its own is missing.

* `Kind.other`: the other kind of page.
* `ofPairs_other_overwrite`: what the other page reads from pairs that were overwritten. Its own name for the old ref is
  not among those that are written, so a pair of that name is still there and is read first.

Main statement: `read_other_write`.
-/

namespace BenchCompare

def Kind.other : Kind → Kind
  | .foreignKeys => .macrobench | .macrobench => .foreignKeys

theorem Kind.oldRefAlias_other (kind : Kind) : kind.other.oldRefAlias = kind.oldRefName := by cases kind <;> rfl

namespace Query

theorem lookup_oldRefName_other (kind : Kind) (p : Params) : (ownPairs kind p).lookup kind.other.oldRefName = none := by
  cases kind <;> rfl

theorem ofPairs_other_overwrite (kind : Kind) (p : Params) (ps : List (String × String)) :
    ofPairs kind.other (overwrite (ownPairs kind p) [] ps) =
      { p with oldRef := (ps.lookup kind.other.oldRefName).getD p.oldRef } := by
  have hkept : (overwrite (ownPairs kind p) [] ps).lookup kind.other.oldRefName = ps.lookup kind.other.oldRefName :=
    lookup_overwrite_of_none ps (lookup_oldRefName_other kind p) List.not_mem_nil
  have hwritten : (overwrite (ownPairs kind p) [] ps).lookup kind.other.oldRefAlias = some p.oldRef := by
    rw [kind.oldRefAlias_other]
    exact lookup_overwrite [] ps (lookup_oldRefName_ownPairs kind p)
  refine ofPairs_overwrite_of_oldRef ?_
  rw [ofPairs, hkept, hwritten]
  cases ps.lookup kind.other.oldRefName <;> rfl

theorem oldRef_getD_eq_self_iff {p : Params} {kept : Option String} :
    { p with oldRef := kept.getD p.oldRef } = p ↔ ∀ v, kept = some v → v = p.oldRef := by
  constructor
  · rintro heq v rfl
    exact congrArg Params.oldRef heq
  · intro h
    cases kept with
    | none => rfl
    | some v => rw [Option.getD_some, h v rfl]

/-- **Inputs that one kind of page has written are read by the other kind, except for an old ref that the query already
held under the name of the other kind.** Such a pair is not among those that are written, and the other kind reads its
own name first. So the inputs are the same exactly if there is no such pair or the first one holds the old ref. -/
theorem read_other_write (kind : Kind) (query : String) (p : Params) :
    let kept := (pairs query).lookup kind.other.oldRefName
    read kind.other (write kind query p) = { p with oldRef := kept.getD p.oldRef } ∧
    (read kind.other (write kind query p) = p ↔ ∀ v, kept = some v → v = p.oldRef) := by
  intro kept
  have hread : read kind.other (write kind query p) = { p with oldRef := kept.getD p.oldRef } := by
    rw [read_eq_ofPairs, pairs_write]
    exact ofPairs_other_overwrite kind p (pairs query)
  refine ⟨hread, ?_⟩
  rw [hread]
  exact oldRef_getD_eq_self_iff

/-- The query of a page for two commits is opened on a page for one commit, where the user sets another ref. On the way
back the ref that was there first is read again. -/
theorem read_other_write_stale :
    read .macrobench (write .foreignKeys "old=v1&new=v2" { oldRef := "v3", newRef := "v2" }) =
      { oldRef := "v1", newRef := "v2" } ∧
    ¬ ∀ (kind : Kind) (query : String) (p : Params), read kind.other (write kind query p) = p := by
  have hread : read .macrobench (write .foreignKeys "old=v1&new=v2" { oldRef := "v3", newRef := "v2" }) =
      { oldRef := "v1", newRef := "v2" } := by decide +kernel
  refine ⟨hread, fun hall => ?_⟩
  have hsame := hall .foreignKeys "old=v1&new=v2" { oldRef := "v3", newRef := "v2" }
  exact absurd (hread.symm.trans hsame) (by decide)

end Query

end BenchCompare
