import BenchCompare.Json.Reader
import BenchCompare.Proofs.Json.Quote

/-!
# Numerals read back

* `Numeral.WellFormed n`: the digits of `n` are digits, and there are digits wherever a JSON numeral needs some.
* `digitBytes`: the bytes of digits, and `digits?_digitBytes`: how they are read.
* `Numeral.Ends rest`: no byte at the start of `rest` can belong to a numeral.

Main statement: `numeral?_toText`.
-/

namespace BenchCompare

namespace Numeral

/-- The numeral is one that JSON knows: whole digits without a leading zero, and digits in the exponent if there is
one. -/
structure WellFormed (n : Numeral) : Prop where
  whole_ne_nil : n.whole ≠ []
  whole : ∀ d ∈ n.whole, d < 10
  no_leading_zero : ∀ d ds, n.whole ≠ 0 :: d :: ds
  fraction : ∀ d ∈ n.fraction, d < 10
  exponent_ne_nil : ∀ e, n.exponent = some e → e.digits ≠ []
  exponent : ∀ e, n.exponent = some e → ∀ d ∈ e.digits, d < 10

/-- What follows a numeral is no part of it. -/
def Ends (rest : List UInt8) : Prop :=
  ∀ b ∈ rest.head?, Json.isDigit b = false ∧ b ≠ 0x2E ∧ b ≠ 0x65 ∧ b ≠ 0x45

end Numeral

namespace Json

open Utf8 (encode encodeChar)
open Numeral (Ends digitText)

/-! ### Digits -/

def digitBytes (ds : List Nat) : List UInt8 := ds.map fun d => UInt8.ofNat (0x30 + d)

theorem encodeChar_digit : ∀ d < 10, encodeChar (Char.ofNat (0x30 + d)) = [UInt8.ofNat (0x30 + d)] := by decide

theorem encode_digitText {ds : List Nat} (h : ∀ d ∈ ds, d < 10) : encode (digitText ds).toList = digitBytes ds := by
  rw [digitText, String.toList_ofList]
  induction ds with
  | nil => rfl
  | cons d ds ih =>
    rw [List.map_cons, Utf8.encode_cons, encodeChar_digit d (h d List.mem_cons_self),
      ih fun d hd => h d (List.mem_cons_of_mem _ hd)]
    rfl

theorem isDigit_ofNat : ∀ d < 10, isDigit (UInt8.ofNat (0x30 + d)) = true := by decide

theorem digitValue_ofNat : ∀ d < 10, (UInt8.ofNat (0x30 + d)).toNat - 0x30 = d := by decide

theorem digitValues_digitBytes {ds : List Nat} (h : ∀ d ∈ ds, d < 10) : digitValues (digitBytes ds) = ds := by
  rw [digitValues, digitBytes, List.map_map]
  exact (List.map_congr_left fun d hd => digitValue_ofNat d (h d hd)).trans (List.map_id _)

theorem digits?_digitBytes {ds : List Nat} (hne : ds ≠ []) (h : ∀ d ∈ ds, d < 10) {rest : List UInt8}
    (hrest : ∀ b ∈ rest.head?, isDigit b = false) : digits? (digitBytes ds ++ rest) = some (ds, rest) := by
  have hall : ∀ b ∈ digitBytes ds, isDigit b = true := by
    intro b hb
    obtain ⟨d, hd, rfl⟩ := List.mem_map.1 hb
    exact isDigit_ofNat d (h d hd)
  have htake : rest.takeWhile isDigit = [] := by
    cases rest with
    | nil => rfl
    | cons b rest => simp [hrest b rfl]
  have hdrop : rest.dropWhile isDigit = rest := by
    cases rest with
    | nil => rfl
    | cons b rest => simp [hrest b rfl]
  have hbytes : digitBytes ds ≠ [] := fun he => hne (List.map_eq_nil_iff.1 he)
  rw [digits?, List.takeWhile_append_of_pos hall, List.dropWhile_append_of_pos hall, htake, hdrop, List.append_nil]
  split
  · exact absurd ‹_› hbytes
  · rw [digitValues_digitBytes h]

/-! ### The parts of a numeral -/

def fractionBytes (n : Numeral) : List UInt8 := if n.fraction.isEmpty then [] else 0x2E :: digitBytes n.fraction

def exponentBytes (n : Numeral) : List UInt8 :=
  match n.exponent with
  | none => []
  | some e => 0x65 :: (if e.negative then 0x2D else 0x2B) :: digitBytes e.digits

theorem head?_fractionBytes (n : Numeral) {rest : List UInt8} (hrest : ∀ b ∈ rest.head?, isDigit b = false) :
    ∀ b ∈ (fractionBytes n ++ rest).head?, isDigit b = false := by
  intro b hb
  rw [fractionBytes] at hb
  split at hb
  · exact hrest b hb
  · obtain rfl := Option.some.inj hb
    rfl

theorem head?_exponentBytes (n : Numeral) {rest : List UInt8} (hrest : Ends rest) :
    ∀ b ∈ (exponentBytes n ++ rest).head?, isDigit b = false ∧ b ≠ 0x2E := by
  intro b hb
  rw [exponentBytes] at hb
  split at hb
  · exact ⟨(hrest b hb).1, (hrest b hb).2.1⟩
  · obtain rfl := Option.some.inj hb
    exact ⟨rfl, by decide⟩

section Parts

variable {n : Numeral} (h : n.WellFormed)
include h

theorem whole?_digitBytes {rest : List UInt8} (hrest : ∀ b ∈ rest.head?, isDigit b = false) :
    whole? (digitBytes n.whole ++ rest) = some (n.whole, rest) := by
  rw [whole?, digits?_digitBytes h.whole_ne_nil h.whole hrest, Option.bind_eq_bind, Option.bind_some]
  dsimp only
  split
  · exact absurd ‹_› (h.no_leading_zero _ _)
  · rfl

theorem fraction?_fractionBytes {rest : List UInt8} (hrest : ∀ b ∈ rest.head?, isDigit b = false ∧ b ≠ 0x2E) :
    fraction? (fractionBytes n ++ rest) = some (n.fraction, rest) := by
  rw [fractionBytes]
  cases hf : n.fraction with
  | nil =>
    rw [List.isEmpty_nil, if_pos rfl, List.nil_append, fraction?.eq_def]
    split
    · exact absurd rfl (hrest _ rfl).2
    · rfl
  | cons d ds =>
    have hdigits := digits?_digitBytes (by simp) (hf ▸ h.fraction) fun b hb => (hrest b hb).1
    rw [if_neg (by simp), List.cons_append, fraction?.eq_def]
    exact hdigits

theorem exponent?_exponentBytes {rest : List UInt8} (hrest : Ends rest) :
    exponent? (exponentBytes n ++ rest) = some (n.exponent, rest) := by
  rw [exponentBytes]
  cases he : n.exponent with
  | none =>
    cases rest with
    | nil => rfl
    | cons b rest =>
      obtain ⟨-, -, hlower, hupper⟩ := hrest b rfl
      simp [exponent?, hlower, hupper]
  | some e =>
    have hdigits := digits?_digitBytes (h.exponent_ne_nil e he) (h.exponent e he) fun b hb => (hrest b hb).1
    obtain ⟨negative, digits⟩ := e
    cases negative <;> simp [exponent?, hdigits]

theorem encode_toText : encode n.toText.toList =
    (if n.negative then [0x2D] else []) ++ (digitBytes n.whole ++ (fractionBytes n ++ exponentBytes n)) := by
  have hsign : encode (if n.negative then "-" else "").toList = if n.negative then [0x2D] else [] := by
    cases n.negative <;> rfl
  have hfraction : encode (if n.fraction.isEmpty then "" else "." ++ digitText n.fraction).toList =
      fractionBytes n := by
    rw [fractionBytes]
    split
    · rfl
    · rw [String.toList_append, Utf8.encode_append, encode_digitText h.fraction]
      rfl
  have hexponent : encode (match n.exponent with
      | none => ""
      | some e => (if e.negative then "e-" else "e+") ++ digitText e.digits).toList = exponentBytes n := by
    rw [exponentBytes]
    cases he : n.exponent with
    | none => rfl
    | some e =>
      dsimp only
      rw [String.toList_append, Utf8.encode_append, encode_digitText (h.exponent e he)]
      cases e.negative <;> rfl
  rw [Numeral.toText, String.toList_append, String.toList_append, String.toList_append, Utf8.encode_append,
    Utf8.encode_append, Utf8.encode_append, hsign, encode_digitText h.whole, hfraction]
  simp only [List.append_assoc]
  exact congrArg (fun l => _ ++ (_ ++ (_ ++ l))) hexponent

/-! ### Whole numerals -/

theorem magnitude?_bytes (negative : Bool) {rest : List UInt8} (hrest : Ends rest) :
    magnitude? negative (digitBytes n.whole ++ (fractionBytes n ++ (exponentBytes n ++ rest))) =
      some ({ n with negative }, rest) := by
  have hexponent := head?_exponentBytes n hrest
  have hfraction := head?_fractionBytes n fun b hb => (hexponent b hb).1
  rw [magnitude?, whole?_digitBytes h hfraction, Option.bind_eq_bind, Option.bind_some]
  dsimp only
  rw [fraction?_fractionBytes h hexponent, Option.bind_eq_bind, Option.bind_some]
  dsimp only
  rw [exponent?_exponentBytes h hrest]
  rfl

/-- The first byte of a written numeral is a minus sign or a digit. -/
theorem exists_toText : ∃ b rest, encode n.toText.toList = b :: rest ∧ (b = 0x2D ∨ isDigit b = true) := by
  rw [encode_toText h]
  cases hneg : n.negative with
  | true => exact ⟨_, _, rfl, .inl rfl⟩
  | false =>
    obtain ⟨d, ds, hds⟩ := List.exists_cons_of_ne_nil h.whole_ne_nil
    refine ⟨UInt8.ofNat (0x30 + d), _, by rw [hds]; rfl, .inr (isDigit_ofNat d (h.whole d ?_))⟩
    rw [hds]
    exact List.mem_cons_self

/-- **A numeral is read back from its text**, up to the first byte that cannot belong to a numeral. -/
theorem numeral?_toText {rest : List UInt8} (hrest : Ends rest) :
    numeral? (encode n.toText.toList ++ rest) = some (n, rest) := by
  have hmagnitude := magnitude?_bytes h n.negative hrest
  rw [encode_toText h]
  simp only [List.append_assoc]
  cases hneg : n.negative with
  | true =>
    rw [hneg] at hmagnitude
    rw [if_pos rfl, List.cons_append, List.nil_append, numeral?.eq_def]
    simp only [hmagnitude]
    rw [← hneg]
  | false =>
    obtain ⟨d, ds, hds⟩ := List.exists_cons_of_ne_nil h.whole_ne_nil
    have hd : isDigit (UInt8.ofNat (0x30 + d)) = true :=
      isDigit_ofNat d (h.whole d (by rw [hds]; exact List.mem_cons_self))
    rw [hneg] at hmagnitude
    rw [if_neg (by decide), List.nil_append, numeral?.eq_def]
    split
    · -- a digit is no minus sign
      rename_i hminus
      rw [hds] at hminus
      have he : UInt8.ofNat (0x30 + d) = 0x2D := (List.cons.inj hminus).1
      rw [he] at hd
      exact absurd hd (by decide)
    · rw [hmagnitude, ← hneg]

end Parts

end Json

end BenchCompare
