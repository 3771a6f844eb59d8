/-!
# UTF-8

* `Utf8.encode`: the bytes of a list of characters.
* `Utf8.scan`: a list of bytes as characters, with `none` for each ill-formed part. An ill-formed part is the
  longest start of a well-formed sequence, or else a single byte.
* `Utf8.decode?`: the characters of bytes that are well-formed throughout.
* `Utf8.decodeLossy`: the characters of any bytes, with U+FFFD for each ill-formed part.
-/

namespace BenchCompare.Utf8

/-- The bytes of one character. -/
def encodeChar (c : Char) : List UInt8 :=
  let n := c.toNat
  if n < 0x80 then [UInt8.ofNat n]
  else if n < 0x800 then [UInt8.ofNat (0xC0 + n / 64), UInt8.ofNat (0x80 + n % 64)]
  else if n < 0x10000 then
    [UInt8.ofNat (0xE0 + n / 4096), UInt8.ofNat (0x80 + n / 64 % 64), UInt8.ofNat (0x80 + n % 64)]
  else
    [UInt8.ofNat (0xF0 + n / 262144), UInt8.ofNat (0x80 + n / 4096 % 64), UInt8.ofNat (0x80 + n / 64 % 64),
      UInt8.ofNat (0x80 + n % 64)]

def encode (l : List Char) : List UInt8 := l.flatMap encodeChar

/-- The number of continuation bytes after `b`, and the range of the first of them. -/
def lead? (b : Nat) : Option (Nat × Nat × Nat) :=
  if 0xC2 ≤ b && b ≤ 0xDF then some (1, 0x80, 0xBF)
  else if b == 0xE0 then some (2, 0xA0, 0xBF)
  else if b == 0xED then some (2, 0x80, 0x9F)
  else if 0xE1 ≤ b && b ≤ 0xEF then some (2, 0x80, 0xBF)
  else if b == 0xF0 then some (3, 0x90, 0xBF)
  else if b == 0xF4 then some (3, 0x80, 0x8F)
  else if 0xF1 ≤ b && b ≤ 0xF3 then some (3, 0x80, 0xBF)
  else none

/-- The bits that a lead byte of `k` continuation bytes carries. -/
def leadBits (b k : Nat) : Nat := if k == 1 then b % 32 else if k == 2 then b % 16 else b % 8

/-- Reads `k` continuation bytes onto `acc`, the first of them from `lo` to `hi`. -/
def continuation (k lo hi acc : Nat) (l : List UInt8) : Option Char × List UInt8 :=
  match k, l with
  | 0, rest => (some (Char.ofNat acc), rest)
  | _ + 1, [] => (none, [])
  | k + 1, b :: rest =>
    if lo ≤ b.toNat && b.toNat ≤ hi then continuation k 0x80 0xBF (acc * 64 + b.toNat % 64) rest
    else (none, b :: rest)

/-- The first character or ill-formed part of `b :: rest`, and the bytes after it. -/
def next (b : UInt8) (rest : List UInt8) : Option Char × List UInt8 :=
  if b.toNat < 0x80 then (some (Char.ofNat b.toNat), rest)
  else match lead? b.toNat with
    | none => (none, rest)
    | some (k, lo, hi) => continuation k lo hi (leadBits b.toNat k) rest

theorem length_continuation (k lo hi acc : Nat) (l : List UInt8) :
    (continuation k lo hi acc l).2.length ≤ l.length := by
  induction k generalizing lo hi acc l with
  | zero => simp [continuation]
  | succ k ih =>
    cases l with
    | nil => simp [continuation]
    | cons b rest =>
      simp only [continuation]
      split
      · exact Nat.le_trans (ih _ _ _ _) (by simp)
      · simp

theorem length_next (b : UInt8) (rest : List UInt8) : (next b rest).2.length ≤ rest.length := by
  simp only [next]
  split
  · simp
  · split
    · simp
    · exact length_continuation _ _ _ _ _

/-- The characters of a list of bytes, with `none` for each ill-formed part. -/
def scan : List UInt8 → List (Option Char)
  | [] => []
  | b :: rest => (next b rest).1 :: scan (next b rest).2
termination_by l => l.length
decreasing_by simp only [List.length_cons]; exact Nat.lt_succ_of_le (length_next b rest)

/-- The characters of well-formed bytes. -/
def decode? (l : List UInt8) : Option (List Char) := (scan l).mapM id

/-- The characters of any bytes. -/
def decodeLossy (l : List UInt8) : List Char := (scan l).map fun c => c.getD (Char.ofNat 0xFFFD)

end BenchCompare.Utf8
