import BenchCompare.Proofs.Text.Parts
import BenchCompare.Proofs.Text.Utf8
import BenchCompare.Query.Form

/-!
# Reading form encoding back

* `IsWritten c`: `c` may stand in a written name or value. None of the separators `&` and `=` does.
* `decodeBytes_encodeByte`: a byte is read back from its written form, whatever follows.
* `decode_encode`: a list of pairs is read back from its query string.
-/

namespace BenchCompare.Form

/-! ### The characters of written names and values -/

/-- An unreserved character, the plus sign or the percent sign. -/
def IsWritten (c : Char) : Prop := isUnreserved c.toNat = true ∨ c = '+' ∨ c = '%'

instance (c : Char) : Decidable (IsWritten c) := by unfold IsWritten; infer_instance

theorem toNat_ofNat_of_unreserved : ∀ n < 256, isUnreserved n = true → (Char.ofNat n).toNat = n := by
  decide +kernel

theorem isWritten_hexDigit : ∀ n < 16, IsWritten (hexDigit n) := by decide

theorem isWritten_of_mem_encodeByte {b : UInt8} {c : Char} (h : c ∈ encodeByte b) : IsWritten c := by
  have hb : b.toNat < 256 := b.toNat_lt
  unfold encodeByte at h
  split at h
  · next hu =>
    rw [List.mem_singleton] at h
    subst h
    left
    rwa [toNat_ofNat_of_unreserved _ hb hu]
  split at h
  · rw [List.mem_singleton] at h
    exact .inr (.inl h)
  · simp only [List.mem_cons, List.not_mem_nil, or_false] at h
    rcases h with rfl | rfl | rfl
    · exact .inr (.inr rfl)
    · exact isWritten_hexDigit _ (by omega)
    · exact isWritten_hexDigit _ (by omega)

theorem isWritten_of_mem_encodeText {s : String} {c : Char} (h : c ∈ encodeText s) : IsWritten c := by
  obtain ⟨b, -, hb⟩ := List.mem_flatMap.1 h
  exact isWritten_of_mem_encodeByte hb

theorem notMem_encodeText {c : Char} (hc : ¬ IsWritten c) (s : String) : c ∉ encodeText s :=
  fun h => hc (isWritten_of_mem_encodeText h)

theorem lt_of_isWritten {c : Char} (h : IsWritten c) : c.toNat < 0x80 := by
  rcases h with h | rfl | rfl
  · simp only [isUnreserved, Bool.or_eq_true, Bool.and_eq_true, decide_eq_true_eq, beq_iff_eq] at h
    omega
  · decide
  · decide

/-! ### One byte at a time -/

theorem hexValue?_hexDigit : ∀ n < 16, hexValue? (hexDigit n) = some n := by decide

theorem decodeBytes_cons_of_unreserved {c : Char} (rest : List Char) (h : isUnreserved c.toNat = true) :
    decodeBytes (c :: rest) = UInt8.ofNat c.toNat :: decodeBytes rest := by
  have hplus : c ≠ '+' := by rintro rfl; exact absurd h (by decide)
  have hpercent : c ≠ '%' := by rintro rfl; exact absurd h (by decide)
  rw [decodeBytes, Utf8.encodeChar, if_pos (lt_of_isWritten (.inl h)), List.singleton_append]
  · exact hplus
  · exact fun a b r he => absurd he hpercent

theorem decodeBytes_encodeByte (b : UInt8) (rest : List Char) :
    decodeBytes (encodeByte b ++ rest) = b :: decodeBytes rest := by
  have hb : b.toNat < 256 := b.toNat_lt
  unfold encodeByte
  split
  · next hu =>
    have hn := toNat_ofNat_of_unreserved _ hb hu
    rw [List.singleton_append, decodeBytes_cons_of_unreserved _ (by rwa [hn]), hn, UInt8.ofNat_toNat]
  split
  · next hs =>
    have hs : b = 0x20 := UInt8.toNat_inj.1 (by simpa using hs)
    rw [List.singleton_append, decodeBytes, hs]
  · have hhex : 16 * (b.toNat / 16) + b.toNat % 16 = b.toNat := by omega
    simp only [List.cons_append, List.nil_append]
    rw [decodeBytes, hexValue?_hexDigit _ (by omega), hexValue?_hexDigit _ (by omega)]
    dsimp only
    rw [hhex, UInt8.ofNat_toNat]

/-! ### Names, values and pairs -/

theorem decodeBytes_encodeBytes (bs : List UInt8) : decodeBytes (bs.flatMap encodeByte) = bs := by
  induction bs with
  | nil => simp [decodeBytes]
  | cons b bs ih => rw [List.flatMap_cons, decodeBytes_encodeByte, ih]

theorem decodeText_encodeText (s : String) : decodeText (encodeText s) = s := by
  rw [decodeText, encodeText, decodeBytes_encodeBytes, Utf8.decodeLossy_encode, String.ofList_toList]

theorem decodePart_encodePair (p : String × String) : decodePart (encodePair p) = p := by
  have hne : ∀ c ∈ encodeText p.1, (c != '=') = true := by
    intro c hc
    have : c ≠ '=' := by rintro rfl; exact notMem_encodeText (by decide) _ hc
    simpa using this
  have hname : (encodePair p).takeWhile (· != '=') = encodeText p.1 := by
    rw [encodePair, List.takeWhile_append_of_pos hne]
    simp
  have hvalue : ((encodePair p).dropWhile (· != '=')).drop 1 = encodeText p.2 := by
    rw [encodePair, List.dropWhile_append_of_pos hne]
    simp
  rw [decodePart, hname, hvalue, decodeText_encodeText, decodeText_encodeText]

/-! ### Query strings -/

theorem amp_notMem_encodePair (p : String × String) : '&' ∉ encodePair p := by
  have h := notMem_encodeText (c := '&') (by decide)
  simp [encodePair, h]

theorem splitParts_encodePairs (p : String × String) (ps : List (String × String)) :
    Text.splitParts '&' (encodePairs (p :: ps)) = (p :: ps).map encodePair := by
  induction ps generalizing p with
  | nil => exact Text.splitParts_of_notMem (amp_notMem_encodePair p)
  | cons q ps ih =>
    rw [encodePairs, Text.splitParts_append _ (amp_notMem_encodePair p), ih, List.map_cons (a := p)]

theorem toList_encode (ps : List (String × String)) : (encode ps).toList = encodePairs ps := by
  rw [encode, String.toList_ofList]

/-- **A list of pairs is read back from its query string.** -/
theorem decode_encode (ps : List (String × String)) : decode (encode ps) = ps := by
  rw [decode, toList_encode]
  cases ps with
  | nil => rfl
  | cons p ps =>
    have hne : ∀ q ∈ (p :: ps).map encodePair, (!q.isEmpty) = true := by
      intro q hq
      obtain ⟨r, -, rfl⟩ := List.mem_map.1 hq
      simp [encodePair]
    rw [splitParts_encodePairs, List.filter_eq_self.2 hne, List.map_map]
    exact (List.map_congr_left fun q _ => decodePart_encodePair q).trans (List.map_id _)

/-- What stands in a query string: written characters and the two separators. -/
theorem isWritten_of_mem_encodePairs {ps : List (String × String)} {c : Char} (h : c ∈ encodePairs ps) :
    IsWritten c ∨ c = '=' ∨ c = '&' := by
  have hpair : ∀ p, c ∈ encodePair p → IsWritten c ∨ c = '=' ∨ c = '&' := by
    intro p hp
    rcases List.mem_append.1 hp with hp | hp
    · exact .inl (isWritten_of_mem_encodeText hp)
    rcases List.mem_cons.1 hp with rfl | hp
    · exact .inr (.inl rfl)
    · exact .inl (isWritten_of_mem_encodeText hp)
  induction ps with
  | nil => simp [encodePairs] at h
  | cons p ps ih =>
    cases ps with
    | nil => exact hpair p h
    | cons q ps =>
      rcases List.mem_append.1 h with h | h
      · exact hpair p h
      rcases List.mem_cons.1 h with rfl | h
      · exact .inr (.inr rfl)
      · exact ih h

end BenchCompare.Form
