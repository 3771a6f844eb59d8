import BenchCompare.Json.Printer
import BenchCompare.Json.Reader
import BenchCompare.Proofs.Text.Utf8

/-!
# Quoted texts

A text is written between quotes character by character, and read from bytes in two steps: first the pieces up to the
closing quote, then the bytes that the pieces stand for.

* `Utf8.encode_append`, `Utf8.encodeChar_of_lt`, `Utf8.le_of_mem_encodeChar`: the bytes of characters.
* `isNumbered`, `charPieces`: the pieces that a written character is read as.
* `pieces?_escapeChar`, `pieceBytes?_charPieces`: each step on one character.

Main statement: `text?_quote`.
-/

namespace BenchCompare

namespace Utf8

theorem encode_append (l l' : List Char) : encode (l ++ l') = encode l ++ encode l' := List.flatMap_append

theorem encode_cons (c : Char) (l : List Char) : encode (c :: l) = encodeChar c ++ encode l := List.flatMap_cons

theorem encodeChar_of_lt {c : Char} (h : c.toNat < 0x80) : encodeChar c = [UInt8.ofNat c.toNat] := if_pos h

/-- A character beyond ASCII has no ASCII byte. -/
theorem le_of_mem_encodeChar {c : Char} (h : 0x80 ≤ c.toNat) {b : UInt8} (hb : b ∈ encodeChar c) :
    0x80 ≤ b.toNat := by
  have hv : c.toNat < 0x110000 := by
    have := c.valid
    simp only [UInt32.isValidChar, Nat.isValidChar] at this
    exact this.elim (fun h => Nat.lt_trans h (by decide)) (·.2)
  unfold encodeChar at hb
  dsimp only at hb
  rw [if_neg (Nat.not_lt_of_le h)] at hb
  split at hb
  · simp only [List.mem_cons, List.not_mem_nil, or_false] at hb
    rcases hb with rfl | rfl <;> rw [toNat_ofNat (by omega)] <;> omega
  split at hb
  · simp only [List.mem_cons, List.not_mem_nil, or_false] at hb
    rcases hb with rfl | rfl | rfl <;> rw [toNat_ofNat (by omega)] <;> omega
  · simp only [List.mem_cons, List.not_mem_nil, or_false] at hb
    rcases hb with rfl | rfl | rfl | rfl <;> rw [toNat_ofNat (by omega)] <;> omega

/-- **Well-formed bytes are decoded.** -/
theorem decode?_encode (l : List Char) : decode? (encode l) = some l := by
  have h : (l.map some).mapM id = some l := by
    induction l with
    | nil => rfl
    | cons c l ih => simp [ih]
  rw [decode?, scan_encode, h]

end Utf8

namespace Json

open Utf8 (encode encodeChar)

/-! ### Pieces of a text -/

/-- Joins a result of `pieces?` to pieces that stand before it. -/
def joinPieces (front : List Piece) : List Piece × List UInt8 → List Piece × List UInt8
  | (ps, rest) => (front ++ ps, rest)

/-- The byte stands for itself inside quotes. -/
def IsPlain (b : UInt8) : Prop := b ≠ 0x22 ∧ b ≠ 0x5C ∧ 0x20 ≤ b.toNat

theorem pieces?_plain {l : List UInt8} (h : ∀ b ∈ l, IsPlain b) (rest : List UInt8) :
    pieces? (l ++ rest) = (pieces? rest).map (joinPieces (l.map .byte)) := by
  induction l with
  | nil => rw [List.nil_append]; cases pieces? rest <;> rfl
  | cons b l ih =>
    obtain ⟨hquote, hslash, hlow⟩ := h b List.mem_cons_self
    have ih := ih fun b hb => h b (List.mem_cons_of_mem _ hb)
    rw [List.cons_append, pieces?.eq_def]
    simp only [beq_iff_eq, hquote, hslash, if_false, Nat.not_lt_of_le hlow, ih]
    cases pieces? rest <;> rfl

def isNumbered (c : Char) : Bool :=
  c.toNat < 0x20 && !(c.toNat == 0x08 || c.toNat == 0x09 || c.toNat == 0x0A || c.toNat == 0x0C || c.toNat == 0x0D)

/-- The pieces that a written character is read as. -/
def charPieces (c : Char) : List Piece := if isNumbered c then [.unit c.toNat] else (encodeChar c).map .byte

theorem unit?_hexDigits : ∀ n < 0x20,
    unit? 0x30 0x30 (UInt8.ofNat (lowerHexDigit (n / 16)).toNat) (UInt8.ofNat (lowerHexDigit (n % 16)).toNat) =
      some n := by decide

theorem lowerHexDigit_lt : ∀ n < 16, (lowerHexDigit n).toNat < 0x80 := by decide

theorem pieces?_shortEscape {e b : UInt8} (he : e ≠ 0x75) (hb : escaped? e = some b) (rest : List UInt8) :
    pieces? (0x5C :: e :: rest) = (pieces? rest).map (joinPieces [.byte b]) := by
  rw [pieces?.eq_def]
  simp [he, hb]
  cases pieces? rest <;> rfl

theorem pieces?_numbered {n : Nat} (h : n < 0x20) (rest : List UInt8) :
    pieces? (0x5C :: 0x75 :: 0x30 :: 0x30 :: UInt8.ofNat (lowerHexDigit (n / 16)).toNat ::
      UInt8.ofNat (lowerHexDigit (n % 16)).toNat :: rest) = (pieces? rest).map (joinPieces [.unit n]) := by
  rw [pieces?.eq_def]
  simp [unit?_hexDigits n h]
  cases pieces? rest <;> rfl

/-- The escape of a control character with a short one, and any other written character. -/
theorem escapeChar_cases (c : Char) :
    (∃ e b, encode (escapeChar c) = [0x5C, e] ∧ e ≠ 0x75 ∧ escaped? e = some b ∧ charPieces c = [.byte b]) ∨
    (c.toNat < 0x20 ∧ isNumbered c = true ∧ escapeChar c =
      ['\\', 'u', '0', '0', lowerHexDigit (c.toNat / 16), lowerHexDigit (c.toNat % 16)]) ∨
    (escapeChar c = [c] ∧ isNumbered c = false ∧ ∀ b ∈ encodeChar c, IsPlain b) := by
  by_cases hquote : c = '"'
  · subst hquote
    exact .inl ⟨0x22, 0x22, by decide⟩
  by_cases hslash : c = '\\'
  · subst hslash
    exact .inl ⟨0x5C, 0x5C, by decide⟩
  by_cases hlow : c.toNat < 0x20
  · by_cases hnumbered : isNumbered c = true
    · refine .inr (.inl ⟨hlow, hnumbered, ?_⟩)
      simp only [isNumbered, hlow, decide_true, Bool.true_and, Bool.not_eq_true', Bool.or_eq_false_iff] at hnumbered
      simp [escapeChar, hquote, hslash, hlow, hnumbered]
    · -- five control characters are left
      have hc := Char.ofNat_toNat c
      simp only [isNumbered, hlow, decide_true, Bool.true_and, Bool.not_eq_true', Bool.not_eq_false, Bool.or_eq_true,
        beq_iff_eq] at hnumbered
      left
      rcases hnumbered with (((h | h) | h) | h) | h <;> rw [h] at hc <;> subst hc
      · exact ⟨0x62, 0x08, by decide⟩
      · exact ⟨0x74, 0x09, by decide⟩
      · exact ⟨0x6E, 0x0A, by decide⟩
      · exact ⟨0x66, 0x0C, by decide⟩
      · exact ⟨0x72, 0x0D, by decide⟩
  · refine .inr (.inr ⟨by simp [escapeChar, hquote, hslash, hlow], by simp [isNumbered, hlow], fun b hb => ?_⟩)
    by_cases hascii : c.toNat < 0x80
    · rw [Utf8.encodeChar_of_lt hascii, List.mem_singleton] at hb
      subst hb
      have hb : (UInt8.ofNat c.toNat).toNat = c.toNat := Utf8.toNat_ofNat (Nat.lt_trans hascii (by decide))
      refine ⟨fun he => hquote ?_, fun he => hslash ?_, by rw [hb]; exact Nat.le_of_not_lt hlow⟩
      · rw [← Char.ofNat_toNat c, ← hb, he]
        rfl
      · rw [← Char.ofNat_toNat c, ← hb, he]
        rfl
    · have hle := Utf8.le_of_mem_encodeChar (Nat.le_of_not_lt hascii) hb
      exact ⟨fun he => absurd hle (by rw [he]; decide), fun he => absurd hle (by rw [he]; decide),
        Nat.le_trans (by decide) hle⟩

/-- **A written character is read as its pieces.** -/
theorem pieces?_escapeChar (c : Char) (rest : List UInt8) :
    pieces? (encode (escapeChar c) ++ rest) = (pieces? rest).map (joinPieces (charPieces c)) := by
  rcases escapeChar_cases c with ⟨e, b, hchars, he, hb, hpieces⟩ | ⟨hlow, hnumbered, hchars⟩ |
    ⟨hchars, hnumbered, hplain⟩
  · rw [hchars, hpieces]
    exact pieces?_shortEscape he hb rest
  · have hhigh := Utf8.encodeChar_of_lt (lowerHexDigit_lt (c.toNat / 16) (by omega))
    have hdigit := Utf8.encodeChar_of_lt (lowerHexDigit_lt (c.toNat % 16) (by omega))
    have hbytes : encode (escapeChar c) = [0x5C, 0x75, 0x30, 0x30, UInt8.ofNat (lowerHexDigit (c.toNat / 16)).toNat,
        UInt8.ofNat (lowerHexDigit (c.toNat % 16)).toNat] := by
      rw [hchars, Utf8.encode_cons, Utf8.encode_cons, Utf8.encode_cons, Utf8.encode_cons, Utf8.encode_cons,
        Utf8.encode_cons, hhigh, hdigit]
      rfl
    rw [hbytes, charPieces, if_pos hnumbered]
    exact pieces?_numbered hlow rest
  · have hbytes : encode (escapeChar c) = encodeChar c := by
      rw [hchars, Utf8.encode_cons]
      exact List.append_nil _
    rw [hbytes, charPieces, if_neg (by simp [hnumbered])]
    exact pieces?_plain hplain rest

theorem pieces?_escapeChars (l : List Char) (rest : List UInt8) :
    pieces? (encode (l.flatMap escapeChar) ++ rest) = (pieces? rest).map (joinPieces (l.flatMap charPieces)) := by
  induction l with
  | nil => cases h : pieces? rest <;> simp [h, encode, joinPieces]
  | cons c l ih =>
    rw [List.flatMap_cons, Utf8.encode_append, List.append_assoc, pieces?_escapeChar, ih, Option.map_map]
    cases pieces? rest <;> simp [joinPieces]

/-! ### The bytes of pieces -/

theorem pieceBytes?_bytes (l : List UInt8) (ps : List Piece) :
    pieceBytes? (l.map .byte ++ ps) = (pieceBytes? ps).map (l ++ ·) := by
  induction l with
  | nil => cases h : pieceBytes? ps <;> simp [h]
  | cons b l ih => cases h : pieceBytes? ps <;> simp [pieceBytes?, ih, h]

/-- **The pieces of a character stand for its bytes.** -/
theorem pieceBytes?_charPieces (c : Char) (ps : List Piece) :
    pieceBytes? (charPieces c ++ ps) = (pieceBytes? ps).map (encodeChar c ++ ·) := by
  by_cases h : isNumbered c = true
  · have hlow : c.toNat < 0x20 := by
      simp only [isNumbered, Bool.and_eq_true, decide_eq_true_eq] at h
      exact h.1
    have hhigh : isHighSurrogate c.toNat = false := by
      simp only [isHighSurrogate, Bool.and_eq_false_iff, decide_eq_false_iff_not]
      omega
    have hsecond : isLowSurrogate c.toNat = false := by
      simp only [isLowSurrogate, Bool.and_eq_false_iff, decide_eq_false_iff_not]
      omega
    rw [charPieces, if_pos h, List.cons_append, List.nil_append, pieceBytes?.eq_def]
    simp only [hhigh, hsecond, Bool.false_eq_true, if_false, Char.ofNat_toNat]
  · rw [charPieces, if_neg h, pieceBytes?_bytes]

theorem pieceBytes?_chars (l : List Char) : pieceBytes? (l.flatMap charPieces) = some (encode l) := by
  induction l with
  | nil => rfl
  | cons c l ih => rw [List.flatMap_cons, pieceBytes?_charPieces, ih, Utf8.encode_cons]; rfl

/-! ### Whole texts -/

/-- **A text is read back from between its quotes**, whatever follows. -/
theorem text?_quote (s : String) (rest : List UInt8) :
    text? (encode (s.toList.flatMap escapeChar) ++ 0x22 :: rest) = some (some s, rest) := by
  have hend : pieces? (0x22 :: rest) = some ([], rest) := by
    rw [pieces?.eq_def]
    rfl
  rw [text?, pieces?_escapeChars, hend]
  simp only [Option.map_some, joinPieces, List.append_nil, pieceText?, pieceBytes?_chars, Option.bind_some,
    Utf8.decode?_encode, String.ofList_toList]

end Json

end BenchCompare
