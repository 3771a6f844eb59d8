import BenchCompare.Proofs.Page.Run
import BenchCompare.Proofs.Query.Write

/-!
# Shared links

* `Page.Mirrors p q`: the address bar of `p` holds the query `q` with the inputs of `p` written into it. This
  holds of a page that was opened on `q` (`mirrors_mount`) and after every event (`Mirrors.step`), which writes into the
  query that it finds (`Mirrors.query_step`).
* `Mirrors.read_query`, `Mirrors.address_reopen`: such a query can be read back, and opening a page on it leaves it as
  it is.

Main statement: `query_run_mount`.
-/

namespace BenchCompare

open Loader (Event Takes Moves)

namespace Page

/-- The address bar holds the query with the inputs of the page written into it. -/
def Mirrors (p : Page) (query : String) : Prop := p.address.query = Query.write p.kind query p.params

/-! ### Runs -/

theorem params_mount (kind : Kind) (address : AddressBar) :
    (mount kind address).params = Query.read kind address.query := by
  rw [params, loader_mount, Loader.params_mount]

theorem mirrors_mount (kind : Kind) (address : AddressBar) : (mount kind address).Mirrors address.query := by
  rw [Mirrors, address_mount, AddressBar.query_navigate, kind_mount, params_mount]

/-- What a move of the loader writes replaces what was written before. -/
theorem query_foldl_follow {l l' : Loader} {e : Event} {effects : List Effect} (hm : Moves l e l' effects)
    {a : AddressBar} {query : String} (h : a.query = Query.write l.kind query l.params) :
    (effects.foldl (AddressBar.follow l.kind) a).query = Query.write l.kind query l'.params := by
  cases hm with
  | same | again | idle | answer | drop => exact h
  | publish _ ht =>
    rw [List.foldl_cons, ht.foldl_follow, AddressBar.follow, AddressBar.query_navigate, ht.params_eq, h,
      Query.write_write]

/-- **Every event keeps the address bar up with the inputs.** -/
theorem Mirrors.step {p : Page} {query : String} (h : p.Mirrors query) (e : Event) : (p.step e).Mirrors query := by
  obtain ⟨effects, hm, -, ha⟩ := moves_step p e
  rw [Mirrors, kind_step, ha]
  exact query_foldl_follow hm h

theorem Mirrors.query_step {p : Page} {query : String} (h : p.Mirrors query) (e : Event) :
    (p.step e).address.query = Query.write p.kind p.address.query (p.step e).params := by
  have hstep : (p.step e).address.query = Query.write (p.step e).kind query (p.step e).params := h.step e
  rw [hstep, kind_step, h, Query.write_write]

theorem Mirrors.run {p : Page} {query : String} (h : p.Mirrors query) (es : List Event) :
    (p.run es).Mirrors query := by
  induction es generalizing p with
  | nil => exact h
  | cons e es ih => exact ih (h.step e)

/-! ### Opening the query again -/

section Reopen

variable {p : Page} {query : String}

theorem Mirrors.read_query (h : p.Mirrors query) : Query.read p.kind p.address.query = p.params := by
  rw [h, Query.read_eq_ofPairs, Query.pairs_write, Query.ofPairs_overwrite]

theorem Mirrors.clean_query (h : p.Mirrors query) : Query.clean p.address.query = p.address.query := by
  rw [h, Query.write, Query.clean_encode]

/-- Writing the inputs into the query of the page does not change it. -/
theorem Mirrors.write_query (h : p.Mirrors query) :
    Query.write p.kind p.address.query p.params = p.address.query := by
  rw [h, Query.write_write]

theorem Mirrors.address_reopen (h : p.Mirrors query) (page : String) :
    (mount p.kind (.ofQuery page p.address.query)).address = { page, query := p.address.query } := by
  have hq : AddressBar.ofQuery page p.address.query = { page, query := p.address.query } := by
    rw [AddressBar.ofQuery, h.clean_query]
  have hw : Query.write p.kind p.address.query (Query.read p.kind p.address.query) = p.address.query := by
    rw [h.read_query, h.write_query]
  rw [hq, address_mount, hw]
  exact AddressBar.navigate_self { page, query := p.address.query }

theorem Mirrors.params_reopen (h : p.Mirrors query) (page : String) :
    (mount p.kind (.ofQuery page p.address.query)).params = p.params := by
  rw [params_mount, AddressBar.ofQuery, h.clean_query, h.read_query]

theorem Mirrors.target_reopen (h : p.Mirrors query) (hc : Loader.Coherent p.loader p.requests) (page : String) :
    (mount p.kind (.ofQuery page p.address.query)).loader.target = p.loader.target := by
  have hc' := coherent_mount p.kind (.ofQuery page p.address.query)
  have hkind := kind_mount p.kind (.ofQuery page p.address.query)
  have hparams := h.params_reopen page
  rw [kind] at hkind
  rw [params] at hparams
  rw [hc'.target_eq, hkind, hparams, hc.target_eq]
  rfl

end Reopen

/-- **The address bar never drifts, and a shared link opens the same comparison.** After every run the query is the
one that the page was opened on with the inputs written into it. They can be read back from it, and a page that is
opened on it has the same inputs and target, leaves the query alone and asks for the target once. -/
theorem query_run_mount (kind : Kind) (address : AddressBar) (es : List Event) (page : String) :
    let p := (mount kind address).run es
    let fresh := mount kind (.ofQuery page p.address.query)
    p.address.query = Query.write kind address.query p.params ∧
    Query.read kind p.address.query = p.params ∧
    fresh.params = p.params ∧
    fresh.loader.target = p.loader.target ∧
    fresh.address.query = p.address.query ∧
    fresh.address.back = [] ∧
    fresh.requests.map (·.target) = p.loader.target.toList := by
  intro p
  have hkind : p.kind = kind := (kind_run _ es).trans (kind_mount kind address)
  have hm : p.Mirrors address.query := (mirrors_mount kind address).run es
  have hc : Loader.Coherent p.loader p.requests := coherent_run (coherent_mount kind address) es
  clear_value p
  subst hkind
  intro fresh
  have hfresh : fresh = mount p.kind (.ofQuery page p.address.query) := rfl
  clear_value fresh
  have htarget : fresh.loader.target = p.loader.target := by rw [hfresh, hm.target_reopen hc]
  have haddress : fresh.address = { page, query := p.address.query } := by rw [hfresh, hm.address_reopen]
  refine ⟨hm, hm.read_query, ?_, htarget, ?_, ?_, ?_⟩
  · rw [hfresh, hm.params_reopen]
  · rw [haddress]
  · rw [haddress]
  · rw [← htarget, hfresh, requests_mount, Loader.map_target_requestsOf_mount, loader_mount]

end Page

end BenchCompare
