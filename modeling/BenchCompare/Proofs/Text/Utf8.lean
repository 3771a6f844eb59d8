import BenchCompare.Text.Utf8

/-!
# Reading UTF-8 back

The bytes of a list of characters are well-formed, and each character is read back from its own bytes.

Main statements: `scan_encode`, `decodeLossy_encode`.
-/

namespace BenchCompare.Utf8

/-! ### Lead bytes -/

theorem lead?_two : ∀ q < 32, 2 ≤ q → lead? (0xC0 + q) = some (1, 0x80, 0xBF) := by decide

theorem lead?_three : ∀ q < 16, lead? (0xE0 + q) =
    some (2, if q = 0 then 0xA0 else 0x80, if q = 13 then 0x9F else 0xBF) := by decide

theorem lead?_four : ∀ q < 5, lead? (0xF0 + q) =
    some (3, if q = 0 then 0x90 else 0x80, if q = 4 then 0x8F else 0xBF) := by decide

/-! ### One byte at a time -/

theorem toNat_ofNat {n : Nat} (h : n < 256) : (UInt8.ofNat n).toNat = n := UInt8.toNat_ofNat_of_lt h

theorem next_lead {n k lo hi : Nat} {rest : List UInt8} (h : n < 256) (hn : 0x80 ≤ n)
    (hl : lead? n = some (k, lo, hi)) :
    next (UInt8.ofNat n) rest = continuation k lo hi (leadBits n k) rest := by
  simp [next, toNat_ofNat h, hl, Nat.not_lt.2 hn]

theorem continuation_cons {k lo hi acc n : Nat} {rest : List UInt8} (h : n < 256) (hlo : lo ≤ n)
    (hhi : n ≤ hi) :
    continuation (k + 1) lo hi acc (UInt8.ofNat n :: rest) =
      continuation k 0x80 0xBF (acc * 64 + n % 64) rest := by
  simp [continuation, toNat_ofNat h, hlo, hhi]

/-! ### One character at a time -/

theorem scan_encodeChar (c : Char) (rest : List UInt8) :
    scan (encodeChar c ++ rest) = some c :: scan rest := by
  -- no surrogates: this keeps the first continuation byte inside the range that its lead byte allows
  have hv : c.toNat < 0xD800 ∨ 0xDFFF < c.toNat ∧ c.toNat < 0x110000 := c.valid
  have hc : Char.ofNat c.toNat = c := Char.ofNat_toNat c
  unfold encodeChar
  generalize c.toNat = n at hv hc
  dsimp only
  split
  · simp only [List.cons_append, List.nil_append]
    rw [scan, next, toNat_ofNat (by omega), if_pos (by omega), hc]
  split
  · have hn : 0xC0 + n / 64 < 256 := by omega
    have hacc : leadBits (0xC0 + n / 64) 1 * 64 + (0x80 + n % 64) % 64 = n := by
      simp only [leadBits, beq_self_eq_true, if_true]
      omega
    simp only [List.cons_append, List.nil_append]
    rw [scan, next_lead hn (by omega) (lead?_two _ (by omega) (by omega)),
      continuation_cons (by omega) (by omega) (by omega), hacc, continuation, hc]
  split
  · have hn : 0xE0 + n / 4096 < 256 := by omega
    have hacc : (leadBits (0xE0 + n / 4096) 2 * 64 + (0x80 + n / 64 % 64) % 64) * 64
        + (0x80 + n % 64) % 64 = n := by
      simp only [leadBits, Nat.reduceBEq, Bool.false_eq_true, if_false, if_true]
      omega
    simp only [List.cons_append, List.nil_append]
    rw [scan, next_lead hn (by omega) (lead?_three _ (by omega)),
      continuation_cons (by omega) (by split <;> omega) (by split <;> omega),
      continuation_cons (by omega) (by omega) (by omega), hacc, continuation, hc]
  · have hn : 0xF0 + n / 262144 < 256 := by omega
    have hacc : ((leadBits (0xF0 + n / 262144) 3 * 64 + (0x80 + n / 4096 % 64) % 64) * 64
        + (0x80 + n / 64 % 64) % 64) * 64 + (0x80 + n % 64) % 64 = n := by
      simp only [leadBits, Nat.reduceBEq, Bool.false_eq_true, if_false]
      omega
    simp only [List.cons_append, List.nil_append]
    rw [scan, next_lead hn (by omega) (lead?_four _ (by omega)),
      continuation_cons (by omega) (by split <;> omega) (by split <;> omega),
      continuation_cons (by omega) (by omega) (by omega),
      continuation_cons (by omega) (by omega) (by omega), hacc, continuation, hc]

/-! ### Whole texts -/

theorem scan_encode (l : List Char) : scan (encode l) = l.map some := by
  induction l with
  | nil => simp [encode, scan]
  | cons c l ih =>
    have h : encode (c :: l) = encodeChar c ++ encode l := by simp [encode]
    rw [h, scan_encodeChar, ih, List.map_cons]

/-- **A text is read back from its bytes.** -/
theorem decodeLossy_encode (l : List Char) : decodeLossy (encode l) = l := by
  simp [decodeLossy, scan_encode, Function.comp_def]

end BenchCompare.Utf8
