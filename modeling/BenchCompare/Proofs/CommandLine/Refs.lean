import BenchCompare.Proofs.Json.Pretty
import BenchCompare.Proofs.CommandLine.Compare

/-!
# The catalog as JSON

The command `refs` writes the catalog in the form in which the service gives it.

* `Catalog.printable_toJson`: a catalog consists of texts, lists and named fields, so it is printed without loss.
* `Ref.ofJson?_toJson`, `Catalog.ofJson?_toJson`: the names of the fields are those that are read.

Main statement: `refs_json`.
-/

namespace BenchCompare

open Json (Value)

/-! ### The value of a catalog -/

theorem Json.Value.Printable.ofFields {fields : List (String × Value)} (h : ∀ f ∈ fields, f.2.Printable) :
    (Value.ofFields fields).Printable := by
  refine .obj (fun f hf => ?_) (fun f hf => ?_)
  · obtain ⟨g, -, rfl⟩ := List.mem_map.1 hf
    rfl
  · obtain ⟨g, hg, rfl⟩ := List.mem_map.1 hf
    exact h g hg

theorem Ref.printable_toJson (r : Ref) : r.toJson.Printable := by
  refine .ofFields fun f hf => ?_
  simp only [List.mem_cons, List.not_mem_nil, or_false] at hf
  rcases hf with rfl | rfl <;> exact .text _

theorem Ref.ofJson?_toJson (r : Ref) : Ref.ofJson? r.toJson = some r := rfl

theorem Ref.toList?_map_toJson (refs : List Ref) :
    Value.toList? Ref.ofJson? (.arr (refs.map Ref.toJson)) = some refs := by
  rw [Value.toList?]
  induction refs with
  | nil => rfl
  | cons r refs ih => rw [List.map_cons, List.mapM_cons, Ref.ofJson?_toJson, ih]; rfl

namespace Catalog

theorem printable_toJson (c : Catalog) : c.toJson.Printable := by
  have hrefs (refs : List Ref) : (Value.arr (refs.map Ref.toJson)).Printable := by
    refine .arr fun v hv => ?_
    obtain ⟨r, -, rfl⟩ := List.mem_map.1 hv
    exact r.printable_toJson
  refine .ofFields fun f hf => ?_
  simp only [List.mem_cons, List.not_mem_nil, or_false] at hf
  rcases hf with rfl | rfl <;> exact hrefs _

theorem ofJson?_toJson (c : Catalog) : ofJson? c.toJson = some c := by
  have h : ofJson? c.toJson = (Value.toList? Ref.ofJson? (.arr (c.branches.map Ref.toJson))).bind fun branches =>
      (Value.toList? Ref.ofJson? (.arr (c.releases.map Ref.toJson))).bind fun releases =>
        some { branches, releases } := rfl
  rw [h, Ref.toList?_map_toJson, Ref.toList?_map_toJson]
  rfl

/-- A printed catalog with blank space after it is the body of a catalog. -/
theorem ofBytes?_pretty (c : Catalog) {blank : List UInt8} (h : ∀ b ∈ blank, Json.isBlankByte b = true) :
    ofBytes? (Utf8.encode (Json.pretty c.toJson).toList ++ blank) = some c := by
  rw [ofBytes?, Json.read?_pretty c.printable_toJson h]
  exact c.ofJson?_toJson

end Catalog

/-! ### The command -/

namespace CommandLine

/-- **What `refs` prints as JSON is the catalog again.** A machine that gives a catalog makes the command print one
text, and the reader of the client finds the same catalog in the bytes of this text, with or without the new line
after it. So does a client of any service that answers with these bytes. -/
theorem refs_json (c : Catalog) :
    let text := Json.pretty c.toJson
    (∀ m s, s.client.fetchCatalog m.network = .ok c →
      refs m s true = { lines := [text], requested := [s.client.url Client.catalogPath] }) ∧
    ∀ ending ∈ [[], ['\n']],
      Catalog.ofBytes? (Utf8.encode (text.toList ++ ending)) = some c ∧
      ∀ (client : Client) (n : Network) (target : String) (r : Response),
        n.get? (client.url Client.catalogPath) = some (target, r) → r.isSuccess = true →
        r.received = Utf8.encode (text.toList ++ ending) → client.fetchCatalog n = .ok c := by
  refine ⟨fun m s hc => by rw [refs, hc]; rfl, fun ending hending => ?_⟩
  have hread : Catalog.ofBytes? (Utf8.encode ((Json.pretty c.toJson).toList ++ ending)) = some c := by
    rw [Utf8.encode_append]
    refine c.ofBytes?_pretty ?_
    simp only [List.mem_cons, List.not_mem_nil, or_false] at hending
    rcases hending with rfl | rfl
    · exact List.forall_mem_nil _
    · exact (List.forall_mem_singleton.2 rfl : ∀ b ∈ [0x0A], Json.isBlankByte b = true)
  refine ⟨hread, fun client n target r hget hsuccess hbody => ?_⟩
  have hfinal : r.isFinal = true := Response.isFinal_of_isSuccess hsuccess
  rw [Client.fetchCatalog, Client.fetch, hget]
  simp only [hfinal, hsuccess, hbody, hread, Bool.not_true, if_true, if_false, Bool.false_eq_true]

/-- A catalog with quotes, backslashes and control characters is served as it was printed and printed again. -/
theorem refs_json_served_again :
    let c : Catalog := { branches := [⟨"a\"b\\", "\u0007é"⟩, ⟨"", "\n"⟩] }
    let m : Machine := answering (Json.pretty c.toJson)
    ({} : Settings).client.fetchCatalog m.network = .ok c ∧ (refs m {} true).lines = [Json.pretty c.toJson] := by
  intro c m
  have htarget : Api.requestTarget? "http://localhost:8080" (({} : Settings).client.url Client.catalogPath) =
      some "/api/vitess/refs" := by decide +kernel
  have hget (body : String) : (answering body).network.get? (({} : Settings).client.url Client.catalogPath) =
      some ("/api/vitess/refs", ⟨200, Utf8.encode body.toList⟩) := by
    simp only [Network.get?, answering, Option.bind_some, htarget, Option.map_some]
  have hbody (text : String) :
      Response.received ⟨200, Utf8.encode text.toList⟩ = Utf8.encode (text.toList ++ []) := by
    rw [List.append_nil]
    rfl
  have hserved : ({} : Settings).client.fetchCatalog m.network = .ok c :=
    ((refs_json c).2 [] List.mem_cons_self).2 _ _ _ _ (hget _) rfl (hbody _)
  exact ⟨hserved, congrArg Output.lines ((refs_json c).1 m {} hserved)⟩

end CommandLine

end BenchCompare
