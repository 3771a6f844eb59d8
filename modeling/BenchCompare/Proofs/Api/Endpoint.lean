import BenchCompare.Api.Client
import BenchCompare.Proofs.Query.Form
import Mathlib.Data.List.TakeWhile

/-!
# What the service is asked for

A comparison is asked for by a path, a question mark and the fields of its target in written form.

* `Form.afterMark`: the characters after the first question mark.
* `Target.afterMark_endpoint`: behind the question mark of an endpoint stand the fields, one part for each.
* `Api.significant_append`, `Api.escape_of_sendable`, `Api.question_notMem_sentPath`: the steps from a URL to the
  target that is sent leave written fields as they are and put no question mark before them.
* `Client.afterMark_reached?`: so the fields are what reaches the server.

Main statement: `endpoint_carries_fields`.
-/

namespace BenchCompare

/-! ### Written characters -/

namespace Form

theorem isAlphanum_of_isWritten {c : Char} (h : IsWritten c) :
    c.isAlphanum = true ∨ c ∈ ['*', '-', '.', '_', '+', '%'] := by
  have hall : ∀ n < 0x80, IsWritten (Char.ofNat n) →
      (Char.ofNat n).isAlphanum = true ∨ Char.ofNat n ∈ ['*', '-', '.', '_', '+', '%'] := by
    decide +kernel
  have hc := hall c.toNat (lt_of_isWritten h)
  rw [Char.ofNat_toNat] at hc
  exact hc h

/-! ### Behind the question mark -/

/-- The characters after the first question mark. -/
def afterMark (l : List Char) : List Char := (l.dropWhile (· != '?')).drop 1

theorem dropWhile_mark {l : List Char} (h : '?' ∉ l) (rest : List Char) :
    (l ++ '?' :: rest).dropWhile (· != '?') = '?' :: rest := by
  have hne : ∀ c ∈ l, (c != '?') = true := fun c hc => by simpa using ne_of_mem_of_not_mem hc h
  rw [List.dropWhile_append_of_pos hne]
  rfl

theorem afterMark_append {l : List Char} (h : '?' ∉ l) (rest : List Char) : afterMark (l ++ '?' :: rest) = rest := by
  rw [afterMark, dropWhile_mark h, List.drop_succ_cons, List.drop_zero]

end Form

namespace Target

theorem toList_endpoint (t : Target) : t.endpoint.toList = t.path.toList ++ '?' :: Form.encodePairs t.fields := by
  rw [endpoint, String.toList_append, String.toList_append, Form.toList_encode, List.append_assoc]
  rfl

theorem mark_notMem_path (t : Target) : '?' ∉ t.path.toList ∧ '#' ∉ t.path.toList := by
  cases t with
  | foreignKeys =>
    show '?' ∉ "fk/compare".toList ∧ '#' ∉ "fk/compare".toList
    decide
  | macrobench =>
    show '?' ∉ "macrobench/compare".toList ∧ '#' ∉ "macrobench/compare".toList
    decide

theorem afterMark_endpoint (t : Target) : Form.afterMark t.endpoint.toList = Form.encodePairs t.fields := by
  rw [toList_endpoint, Form.afterMark_append t.mark_notMem_path.1]

theorem encodePair_of_mem_fields {t : Target} {f : String × String} (h : f ∈ t.fields) :
    Form.encodePair f = f.1.toList ++ '=' :: Form.encodeText f.2 := by
  have hall : ∀ name ∈ ["sha", "oldWorkload", "newWorkload", "old", "new"], Form.encodeText name = name.toList := by
    decide +kernel
  have hname : f.1 ∈ ["sha", "oldWorkload", "newWorkload", "old", "new"] := by
    cases t <;> simp only [fields, List.mem_cons, List.not_mem_nil, or_false] at h
    · rcases h with rfl | rfl | rfl <;> simp
    · rcases h with rfl | rfl <;> simp
  rw [Form.encodePair, hall f.1 hname]

theorem splitParts_afterMark_endpoint (t : Target) :
    Text.splitParts '&' (Form.afterMark t.endpoint.toList) =
      t.fields.map fun f => f.1.toList ++ '=' :: Form.encodeText f.2 := by
  have hparts : Text.splitParts '&' (Form.encodePairs t.fields) = t.fields.map Form.encodePair := by
    cases t <;> exact Form.splitParts_encodePairs _ _
  rw [afterMark_endpoint, hparts]
  exact List.map_congr_left fun f hf => encodePair_of_mem_fields hf

theorem fields_injective {t t' : Target} (h : t.fields = t'.fields) : t = t' := by
  cases t <;> cases t' <;> simp_all [fields]

end Target

/-! ### On the way to the server -/

namespace Api

/-- A character that is neither dropped nor escaped on the way, wherever it stands in the query of a URL. -/
def Sendable (c : Char) : Prop :=
  c.toNat < 0x80 ∧ isEdge c = false ∧ isIgnored c = false ∧ isEscapedInQuery c.toNat = false

instance (c : Char) : Decidable (Sendable c) := by unfold Sendable; infer_instance

theorem sendable_of_mem_encodePairs {ps : List (String × String)} {c : Char} (h : c ∈ Form.encodePairs ps) :
    Sendable c := by
  have hall : ∀ n < 0x80, Form.IsWritten (Char.ofNat n) → Sendable (Char.ofNat n) := by decide +kernel
  rcases Form.isWritten_of_mem_encodePairs h with hw | rfl | rfl
  · have hc := hall c.toNat (Form.lt_of_isWritten hw)
    rw [Char.ofNat_toNat] at hc
    exact hc hw
  · decide
  · decide

theorem hash_not_sendable : ¬ Sendable '#' := by decide

/-- What is sent of a text that holds sendable characters only at its end. -/
theorem significant_append (l : List Char) {r : List Char} (hne : r ≠ []) (hr : ∀ c ∈ r, Sendable c) :
    significant (l ++ r) = (l.dropWhile isEdge).filter (!isIgnored ·) ++ r := by
  have hfront : (l ++ r).dropWhile isEdge = l.dropWhile isEdge ++ r := by
    rw [List.dropWhile_append, Text.dropWhile_of_forall_not fun c hc => (hr c hc).2.1]
    split
    · next hempty => rw [List.isEmpty_iff.1 hempty, List.nil_append]
    · rfl
  have hback : (l.dropWhile isEdge ++ r).reverse.dropWhile isEdge = (l.dropWhile isEdge ++ r).reverse := by
    rw [List.reverse_append]
    obtain ⟨c, s, hs⟩ := List.exists_cons_of_ne_nil (mt List.reverse_eq_nil_iff.1 hne)
    have hc : isEdge c = false := (hr c (List.mem_reverse.1 (hs ▸ List.mem_cons_self))).2.1
    rw [hs, List.cons_append, List.dropWhile_cons_of_neg (by simp [hc])]
  have hkeep : r.filter (!isIgnored ·) = r := List.filter_eq_self.2 fun c hc => by simp [(hr c hc).2.2.1]
  rw [significant, hfront, hback, List.reverse_reverse, List.filter_append, hkeep]

theorem escape_of_sendable {l : List Char} (h : ∀ c ∈ l, Sendable c) : escape isEscapedInQuery l = l := by
  induction l with
  | nil => rfl
  | cons c l ih =>
    obtain ⟨hlt, -, -, hescaped⟩ := h c List.mem_cons_self
    have hbyte : (UInt8.ofNat c.toNat).toNat = c.toNat := Utf8.toNat_ofNat (by omega)
    have hbytes : Utf8.encode (c :: l) = UInt8.ofNat c.toNat :: Utf8.encode l := by
      rw [Utf8.encode, List.flatMap_cons, Utf8.encodeChar, if_pos hlt]
      rfl
    have ih := ih fun d hd => h d (List.mem_cons_of_mem c hd)
    rw [escape] at ih ⊢
    rw [hbytes, List.flatMap_cons, ih, hbyte, hescaped, Char.ofNat_toNat]
    rfl

/-- A question mark that is not escaped does not come from a path. -/
theorem question_notMem_sentPath (l : List Char) : '?' ∉ sentPath l := by
  intro h
  obtain ⟨segment, -, hsegment⟩ := List.mem_flatMap.1 h
  rcases List.mem_cons.1 hsegment with hslash | hmem
  · cases hslash
  obtain ⟨b, -, hb⟩ := List.mem_flatMap.1 hmem
  have hbyte : b.toNat < 256 := b.toNat_lt
  split at hb
  · have hhex : ∀ n < 16, '?' ≠ Form.hexDigit n := by decide
    simp only [List.mem_cons, List.not_mem_nil, or_false] at hb
    rcases hb with hb | hb | hb
    · cases hb
    · exact hhex _ (by omega) hb
    · exact hhex _ (by omega) hb
  · next hescaped =>
    have hall : ∀ n < 256, isEscapedInPath n = false → '?' ≠ Char.ofNat n := by decide +kernel
    exact hall _ hbyte (Bool.eq_false_iff.2 hescaped) (List.mem_singleton.1 hb)

end Api

/-! ### At the server -/

namespace Api

/-- What comes before a question mark and has a text without one at its start. -/
theorem exists_append_of_isPrefixOf {origin front q : List Char} (horigin : '?' ∉ origin)
    (h : origin.isPrefixOf (front ++ '?' :: q) = true) : ∃ rest, front = origin ++ rest := by
  rcases List.prefix_or_prefix_of_prefix (List.isPrefixOf_iff_prefix.1 h) (List.prefix_append front ('?' :: q)) with
    ⟨rest, hrest⟩ | ⟨more, hmore⟩
  · exact ⟨rest, hrest.symm⟩
  · cases more with
    | nil => exact ⟨[], by rw [← hmore, List.append_nil, List.append_nil]⟩
    | cons c more =>
      -- the next character would be the question mark
      obtain ⟨tail, htail⟩ := List.isPrefixOf_iff_prefix.1 h
      rw [← hmore, List.append_assoc, List.append_cancel_left_eq, List.cons_append] at htail
      obtain ⟨rfl, -⟩ := List.cons.inj htail
      exact absurd (hmore ▸ List.mem_append_right front List.mem_cons_self) horigin

/-- **The query of a URL is sent as it is written**, if no question mark comes before it. -/
theorem afterMark_requestTarget? {origin url target : String} {front q : List Char} (horigin : '?' ∉ origin.toList)
    (hurl : url.toList = front ++ '?' :: q) (hmark : '?' ∉ front) (hhash : '#' ∉ front) (hq : ∀ c ∈ q, Sendable c)
    (h : requestTarget? origin url = some target) : Form.afterMark target.toList = q := by
  have hsendable : ∀ c ∈ '?' :: q, Sendable c := by
    intro c hc
    rcases List.mem_cons.1 hc with rfl | hc
    · decide
    · exact hq c hc
  have hsignificant := significant_append front (List.cons_ne_nil '?' q) hsendable
  have hsublist : ((front.dropWhile isEdge).filter (!isIgnored ·)).Sublist front :=
    List.filter_sublist.trans (List.dropWhile_sublist _)
  generalize (front.dropWhile isEdge).filter (!isIgnored ·) = kept at hsignificant hsublist
  unfold requestTarget? at h
  rw [hurl, hsignificant] at h
  dsimp only at h
  split at h
  · next hprefix =>
    obtain ⟨rest, rfl⟩ := exists_append_of_isPrefixOf horigin hprefix
    have hnot : ∀ c, c ∉ front → c ∉ rest := fun c hc hr => hc (hsublist.subset (List.mem_append_right _ hr))
    -- nothing is cut off as a fragment
    have hsent : (rest ++ '?' :: q).takeWhile (· != '#') = rest ++ '?' :: q := by
      rw [List.takeWhile_eq_self_iff]
      intro c hc
      have hne : c ≠ '#' := by
        rintro rfl
        rcases List.mem_append.1 hc with hc | hc
        · exact hnot '#' hhash hc
        · exact hash_not_sendable (hsendable '#' hc)
      simpa using hne
    rw [List.append_assoc, List.drop_left, hsent, Form.dropWhile_mark (hnot '?' hmark), sentQuery,
      escape_of_sendable hq] at h
    split at h
    · next hnil => exact absurd hnil (by simp)
    · split at h
      · obtain rfl := Option.some.inj h
        rw [String.toList_ofList, Form.afterMark_append (question_notMem_sentPath _)]
      · cases h
  · cases h

end Api

/-- **The fields of a target reach the server as they are written**, if the base address of the service has neither a
query nor a fragment and the address of the server has no query. -/
theorem Client.afterMark_reached? {c : Client} {server : Server} {t : Target} {target : String}
    (hmark : '?' ∉ c.base.toList) (hhash : '#' ∉ c.base.toList) (horigin : '?' ∉ server.origin.toList)
    (h : c.reached? (some server) t.endpoint = some target) :
    Form.afterMark target.toList = Form.encodePairs t.fields := by
  obtain ⟨hpath, hpath'⟩ := t.mark_notMem_path
  have hurl : (c.url t.endpoint).toList = (c.base.toList ++ t.path.toList) ++ '?' :: Form.encodePairs t.fields := by
    rw [Client.url, String.toList_append, Target.toList_endpoint, List.append_assoc]
  have htarget : Api.requestTarget? server.origin (c.url t.endpoint) = some target := by
    simpa [Client.reached?, Network.get?, Function.comp_def] using h
  refine Api.afterMark_requestTarget? horigin hurl ?_ ?_ (fun _ => Api.sendable_of_mem_encodePairs) htarget
  · simp [hmark, hpath]
  · simp [hhash, hpath']

/-! ### The main statement -/

/-- **An endpoint carries the fields of its target and nothing else.** What stands behind its question mark is decoded to
the named fields in their order. It has one part for each field, the name, an equals sign and the written value, and a
written value has letters, digits and six marks only. So targets with the same endpoint are the same. A server is asked
for the same text, whatever the fields hold. -/
theorem Target.endpoint_carries_fields (t : Target) :
    let named : List (String × String) := match t with
      | .foreignKeys sha oldWorkload newWorkload =>
        [("sha", sha), ("oldWorkload", oldWorkload), ("newWorkload", newWorkload)]
      | .macrobench old new => [("old", old), ("new", new)]
    let query := Form.afterMark t.endpoint.toList
    Form.decode (String.ofList query) = named ∧
    Text.splitParts '&' query = named.map (fun f => f.1.toList ++ '=' :: Form.encodeText f.2) ∧
    (∀ f ∈ named, ∀ c ∈ Form.encodeText f.2, c.isAlphanum = true ∨ c ∈ ['*', '-', '.', '_', '+', '%']) ∧
    (∀ t' : Target, t.endpoint = t'.endpoint ↔ t = t') ∧
    ∀ (c : Client) (server : Server) (target : String), '?' ∉ c.base.toList → '#' ∉ c.base.toList →
      '?' ∉ server.origin.toList → c.reached? (some server) t.endpoint = some target →
      Form.afterMark target.toList = query := by
  intro named query
  have hnamed : named = t.fields := by cases t <;> rfl
  have hquery : query = Form.encodePairs t.fields := t.afterMark_endpoint
  have hdecode : ∀ t' : Target, Form.decode (String.ofList (Form.afterMark t'.endpoint.toList)) = t'.fields := by
    intro t'
    rw [t'.afterMark_endpoint]
    exact Form.decode_encode t'.fields
  refine ⟨(hdecode t).trans hnamed.symm, ?_, ?_, ?_, ?_⟩
  · rw [hnamed]
    exact t.splitParts_afterMark_endpoint
  · intro f _ c hc
    exact Form.isAlphanum_of_isWritten (Form.isWritten_of_mem_encodeText hc)
  · intro t'
    refine ⟨fun h => ?_, congrArg endpoint⟩
    apply fields_injective
    rw [← hdecode t, ← hdecode t', h]
  · intro c server target hmark hhash horigin h
    rw [hquery]
    exact Client.afterMark_reached? hmark hhash horigin h

/-- A ref with all kinds of separators in it reaches the server as one field. -/
theorem Target.endpoint_carries_separators :
    let ref := "v1&new=é?#"
    let t := Target.macrobench ref "+ %"
    let c : Client := ⟨"http://localhost:80/"⟩
    let server : Server := { origin := "http://localhost:80", respond := fun _ => ⟨404, []⟩ }
    let target := "/macrobench/compare?old=v1%26new%3D%C3%A9%3F%23&new=%2B+%25"
    c.reached? (some server) t.endpoint = some target ∧ '%' ∈ Form.encodeText ref ∧
      ('%'.isAlphanum = true ∨ '%' ∈ ['*', '-', '.', '_', '+', '%']) ∧
      Form.afterMark target.toList = Form.afterMark t.endpoint.toList ∧
      Form.decode (String.ofList (Form.afterMark target.toList)) = [("old", ref), ("new", "+ %")] := by
  intro ref t c server target
  obtain ⟨hdecode, -, hwritten, -, hsent⟩ := endpoint_carries_fields t
  have hreached : c.reached? (some server) t.endpoint = some target := by decide +kernel
  have hpercent : '%' ∈ Form.encodeText ref := by decide +kernel
  have hquery := hsent c server target (by decide) (by decide) (by decide) hreached
  refine ⟨hreached, hpercent, hwritten ("old", ref) List.mem_cons_self '%' hpercent, hquery, ?_⟩
  rw [hquery]
  exact hdecode

end BenchCompare
