import BenchCompare.AddressBar
import BenchCompare.Proofs.Query.Places

/-!
# Queries that are cleaned twice

The address bar cleans the query that it is opened with, and every reading and writing cleans the query that it is
given.

* `Text.trimChars_of_suffix`: the end of a trimmed text has nothing to trim behind it.
* `BlankBehindMarks query`: blank space follows the question marks in front. Cleaning takes away what stands in front
  once, so this blank space is still there, and only the second cleaning takes it away.
* `clean_clean`: without such blank space a query is clean after the first time. `exists_clean_clean`: with it, a part
  of the text that is no syntax of a query goes the second time.
* `Form.decode_append`: such a part stands in the name of the first pair. `write_ne_of_blankBehindMarks`: so nothing
  that is written is the same.

Main statement: `stored_alike_iff`.
-/

namespace BenchCompare

namespace Text

theorem dropWhile_of_prefix {p : Char → Bool} {l m : List Char} (h : m <+: l.dropWhile p) : m.dropWhile p = m := by
  cases m with
  | nil => rfl
  | cons c m =>
    obtain ⟨rest, hrest⟩ := h
    have hhead := List.head?_dropWhile_not p l
    rw [← hrest] at hhead
    rw [List.dropWhile_cons_of_neg]
    simpa using hhead

theorem trimChars_of_suffix {l m : List Char} (h : m <:+ trimChars l) : trimChars m = m.dropWhile isBlank := by
  have hprefix : (m.dropWhile isBlank).reverse <+: (l.dropWhile isBlank).reverse.dropWhile isBlank := by
    rw [← List.reverse_suffix, List.reverse_reverse]
    exact (List.dropWhile_suffix isBlank).trans h
  rw [trimChars, dropWhile_of_prefix hprefix, List.reverse_reverse]

theorem splitParts_ne_nil (sep : Char) (l : List Char) : splitParts sep l ≠ [] := by
  rw [splitParts_eq_splitOn]
  exact List.splitOn_ne_nil sep l

/-- Text without the separator stands in front of the first part. -/
theorem splitParts_append_left {sep : Char} {front l part : List Char} {parts : List (List Char)} (h : sep ∉ front)
    (hl : splitParts sep l = part :: parts) : splitParts sep (front ++ l) = (front ++ part) :: parts := by
  induction front with
  | nil => exact hl
  | cons c front ih =>
    rw [List.mem_cons, not_or] at h
    have hne : (c == sep) = false := by simpa using Ne.symm h.1
    simp only [List.cons_append, splitParts, hne, ih h.2, Bool.false_eq_true, if_false]

end Text

/-! ### Text in front of a query -/

namespace Form

/-- The character has no meaning of its own in a query string. -/
def IsPlain (c : Char) : Prop := c ≠ '&' ∧ c ≠ '=' ∧ c ≠ '+' ∧ c ≠ '%'

section Append

variable {front : List Char} (h : ∀ c ∈ front, IsPlain c)
include h

theorem decodeText_append (l : List Char) : (decodeText (front ++ l)).toList = front ++ (decodeText l).toList := by
  simp only [decodeText, String.toList_ofList]
  induction front with
  | nil => rfl
  | cons c front ih =>
    obtain ⟨-, -, hplus, hpercent⟩ := h c List.mem_cons_self
    rw [List.cons_append, decodeBytes, Utf8.decodeLossy, Utf8.scan_encodeChar, List.map_cons]
    · exact congrArg (c :: ·) (ih fun c' hc' => h c' (List.mem_cons_of_mem c hc'))
    · exact hplus
    · exact fun _ _ _ heq => absurd heq hpercent

/-- Plain text in front of a part stands in front of its name. -/
theorem decodePart_append (part : List Char) :
    (decodePart (front ++ part)).1.toList = front ++ (decodePart part).1.toList := by
  have hne : ∀ c ∈ front, (c != '=') = true := fun c hc => by simpa using (h c hc).2.1
  rw [decodePart, decodePart, List.takeWhile_append_of_pos hne]
  exact decodeText_append h _

/-- Plain text in front of a query stands in front of its first part, which may be empty without it. -/
theorem decode_append (hne : front ≠ []) (l : List Char) :
    ∃ part rest, decode (String.ofList (front ++ l)) = decodePart (front ++ part) :: rest ∧
      decode (String.ofList l) = if part = [] then rest else decodePart part :: rest := by
  have hamp : '&' ∉ front := fun hc => (h _ hc).1 rfl
  obtain ⟨part, parts, hparts⟩ := List.exists_cons_of_ne_nil (Text.splitParts_ne_nil '&' l)
  have hkept : ((front ++ part) :: parts).filter (!·.isEmpty) = (front ++ part) :: parts.filter (!·.isEmpty) :=
    List.filter_cons_of_pos (by simp [hne])
  refine ⟨part, (parts.filter (!·.isEmpty)).map decodePart, ?_, ?_⟩
  · rw [decode, String.toList_ofList, Text.splitParts_append_left hamp hparts, hkept, List.map_cons]
  · rw [decode, String.toList_ofList, hparts, List.filter_cons]
    cases part <;> rfl

end Append

end Form

namespace Query

/-! ### The second cleaning -/

/-- A blank character follows the question marks in front of the query. -/
def BlankBehindMarks (query : String) : Prop :=
  ∃ marks c rest, Text.trimChars query.toList = marks ++ c :: rest ∧ (∀ m ∈ marks, m = '?') ∧ Text.isBlank c = true

theorem toList_clean (query : String) :
    (clean query).toList = (Text.trimChars query.toList).dropWhile (· == '?') := String.toList_ofList

/-- The text is trimmed already, so cleaning it again takes away only what stands in front. -/
theorem toList_clean_clean (query : String) :
    (clean (clean query)).toList = ((clean query).toList.dropWhile Text.isBlank).dropWhile (· == '?') := by
  have hsuffix : (clean query).toList <:+ Text.trimChars query.toList := by
    rw [toList_clean]
    exact List.dropWhile_suffix _
  rw [toList_clean, Text.trimChars_of_suffix hsuffix]

theorem eq_of_mem_marks {l : List Char} {c : Char} (h : c ∈ l.takeWhile (· == '?')) : c = '?' := by
  have hmark : (c == '?') = true := List.mem_takeWhile_imp (p := (· == '?')) h
  exact beq_iff_eq.1 hmark

theorem blankBehindMarks_iff {query : String} :
    BlankBehindMarks query ↔ ∃ c rest, (clean query).toList = c :: rest ∧ Text.isBlank c = true := by
  rw [toList_clean]
  constructor
  · rintro ⟨marks, c, rest, htrim, hmarks, hc⟩
    have hstop : (c :: rest).dropWhile (· == '?') = c :: rest := by
      refine List.dropWhile_cons_of_neg fun heq => ?_
      rw [beq_iff_eq.1 heq] at hc
      exact absurd hc (by decide)
    refine ⟨c, rest, ?_, hc⟩
    rw [htrim, List.dropWhile_append_of_pos (by simpa using hmarks), hstop]
  · rintro ⟨c, rest, hrest, hc⟩
    refine ⟨(Text.trimChars query.toList).takeWhile (· == '?'), c, rest, ?_, ?_, hc⟩
    · rw [← hrest, List.takeWhile_append_dropWhile]
    · exact fun m hm => eq_of_mem_marks hm

theorem clean_clean {query : String} (h : ¬ BlankBehindMarks query) : clean (clean query) = clean query := by
  have hblank : (clean query).toList.dropWhile Text.isBlank = (clean query).toList := by
    cases hclean : (clean query).toList with
    | nil => rfl
    | cons c rest =>
      refine List.dropWhile_cons_of_neg fun hc => h (blankBehindMarks_iff.2 ⟨c, rest, hclean, hc⟩)
  rw [← String.toList_inj, toList_clean_clean, hblank, toList_clean]
  exact Text.dropWhile_of_prefix List.prefix_rfl

/-- What the second cleaning takes away begins with a blank character and has no meaning in a query. -/
theorem exists_clean_clean {query : String} (h : BlankBehindMarks query) :
    ∃ c front, Text.isBlank c = true ∧ (∀ c' ∈ c :: front, Form.IsPlain c') ∧
      (clean query).toList = (c :: front) ++ (clean (clean query)).toList := by
  obtain ⟨c, rest, hclean, hc⟩ := blankBehindMarks_iff.1 h
  refine ⟨c, rest.takeWhile Text.isBlank ++ (rest.dropWhile Text.isBlank).takeWhile (· == '?'), hc, ?_, ?_⟩
  · intro c' hc'
    have hkind : Text.isBlank c' = true ∨ c' = '?' := by
      rcases List.mem_cons.1 hc' with rfl | hc'
      · exact .inl hc
      rcases List.mem_append.1 hc' with hc' | hc'
      · exact .inl (List.mem_takeWhile_imp hc')
      · exact .inr (eq_of_mem_marks hc')
    rcases hkind with hblank | rfl
    · refine ⟨?_, ?_, ?_, ?_⟩ <;>
      · rintro rfl
        exact absurd hblank (by decide)
    · exact ⟨by decide, by decide, by decide, by decide⟩
  · rw [toList_clean_clean, hclean, List.dropWhile_cons_of_pos hc, List.cons_append, List.append_assoc,
      List.takeWhile_append_dropWhile, List.takeWhile_append_dropWhile]

/-! ### What is read and written -/

/-- The first name stays in front, whatever value it takes. -/
theorem exists_overwrite_cons (own : List (String × String)) (e : String × String) (ps : List (String × String)) :
    ∃ v rest, overwrite own [] (e :: ps) = (e.1, v) :: rest := by
  rw [overwrite]
  split
  · exact ⟨_, _, rfl⟩
  · exact ⟨_, _, if_neg List.not_mem_nil⟩

theorem overwrite_cons_of_none {own : List (String × String)} {e : String × String} (h : own.lookup e.1 = none)
    (ps : List (String × String)) : overwrite own [] (e :: ps) = e :: overwrite own [] ps := by
  rw [overwrite]
  split
  · next v hv =>
    rw [h] at hv
    cases hv
  · exact if_neg List.not_mem_nil

/-- None of the names of the inputs begins with a blank character. -/
theorem lookup_ownPairs_of_blank (kind : Kind) (p : Params) {name : String} {c : Char} {rest : List Char}
    (h : name.toList = c :: rest) (hc : Text.isBlank c = true) : (ownPairs kind p).lookup name = none := by
  have hnames : ∀ own ∈ kind.inputNames, own.toList.head?.all (!Text.isBlank ·) = true := by cases kind <;> decide
  rw [lookup_eq_none_iff_notMem, map_fst_ownPairs]
  intro hname
  have hfirst := hnames name hname
  rw [h, List.head?_cons, Option.all_some, hc] at hfirst
  cases hfirst

/-- Blank space behind the question marks becomes a part of a name, and what is written over the query keeps it. -/
theorem write_ne_of_blankBehindMarks (kind : Kind) {query : String} (h : BlankBehindMarks query) (p : Params) :
    write kind (clean query) p ≠ write kind query p := by
  obtain ⟨c, front, hc, hplain, hclean⟩ := exists_clean_clean h
  obtain ⟨part, rest, hlong, hshort⟩ := Form.decode_append hplain (List.cons_ne_nil c front) (clean (clean query)).toList
  rw [← hclean, String.ofList_toList] at hlong
  rw [String.ofList_toList] at hshort
  have hname := Form.decodePart_append hplain part
  have hnone := lookup_ownPairs_of_blank kind p hname hc
  intro heq
  have hwritten : overwrite (ownPairs kind p) [] (pairs (clean query)) =
      Form.decodePart (c :: front ++ part) :: overwrite (ownPairs kind p) [] rest := by
    rw [← pairs_write, heq, pairs_write, pairs, hlong, overwrite_cons_of_none hnone]
  rw [pairs, hshort] at hwritten
  split at hwritten
  · -- the blank space was a pair of its own, so now there is one pair less
    exact List.ne_cons_self hwritten
  · -- the first name has grown
    obtain ⟨v, rest', hfirst⟩ := exists_overwrite_cons (ownPairs kind p) (Form.decodePart part) rest
    have hsame : (Form.decodePart part).1 = (Form.decodePart (c :: front ++ part)).1 :=
      (Prod.ext_iff.1 (List.cons.inj (hfirst.symm.trans hwritten)).1).1
    rw [← hsame] at hname
    exact List.cons_ne_nil c front (List.self_eq_append_left.1 hname)

/-! ### The main statement -/

/-- **A query keeps its meaning in the address bar unless blank space follows the question marks in front.** The query
that the address bar keeps holds the same inputs as the one that it was opened with, and inputs are written over both
to the same query, exactly if no blank character comes after the question marks that the trimmed query begins with. -/
theorem stored_alike_iff (kind : Kind) (page query : String) :
    let stored := (AddressBar.ofQuery page query).query
    (read kind stored = read kind query ∧ ∀ p, write kind stored p = write kind query p) ↔
      ¬ BlankBehindMarks query := by
  intro stored
  constructor
  · intro ⟨_, hwrite⟩ hblank
    exact write_ne_of_blankBehindMarks kind hblank {} (hwrite {})
  · intro hblank
    have hpairs : pairs stored = pairs query := congrArg Form.decode (clean_clean hblank)
    refine ⟨?_, fun p => ?_⟩
    · rw [read_eq_ofPairs, read_eq_ofPairs, hpairs]
    · rw [write, write, hpairs]

/-- The blank space is a part of the first name only until the address bar has cleaned the query. -/
theorem read_stored_blank :
    read .foreignKeys "? sha=abc" = {} ∧
    read .foreignKeys (AddressBar.ofQuery "page" "? sha=abc").query = { oldRef := "abc" } ∧
    ¬ ∀ (kind : Kind) (page query : String),
      read kind (AddressBar.ofQuery page query).query = read kind query := by
  have hraw : read .foreignKeys "? sha=abc" = {} := by decide +kernel
  have hstored : read .foreignKeys (AddressBar.ofQuery "page" "? sha=abc").query = { oldRef := "abc" } := by
    decide +kernel
  refine ⟨hraw, hstored, fun hall => ?_⟩
  have hsame := hall .foreignKeys "page" "? sha=abc"
  rw [hraw, hstored] at hsame
  exact absurd hsame (by decide)

end Query

end BenchCompare
