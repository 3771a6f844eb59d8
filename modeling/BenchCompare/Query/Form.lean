import BenchCompare.Text.Search
import BenchCompare.Text.Utf8

/-!
# Form encoding

Query strings as lists of named values: `name=value` parts joined by `&`, with a plus sign for a space and
`%XX` for every byte that is not a letter, a digit or one of `*-._`.

* `Form.encode`: the written form of a list of pairs.
* `Form.decode`: the pairs of any text. Empty parts are left out, a part without `=` has an empty value, a
  percent sign without two hexadecimal digits stands for itself, and ill-formed UTF-8 becomes U+FFFD.
-/

namespace BenchCompare.Form

/-- Bytes that are written as they are. -/
def isUnreserved (b : Nat) : Bool :=
  (0x61 ≤ b && b ≤ 0x7A) || (0x41 ≤ b && b ≤ 0x5A) || (0x30 ≤ b && b ≤ 0x39)
    || b == 0x2A || b == 0x2D || b == 0x2E || b == 0x5F

/-- The upper-case hexadecimal digit of a number below sixteen. -/
def hexDigit (n : Nat) : Char := if n < 10 then Char.ofNat (0x30 + n) else Char.ofNat (0x37 + n)

/-- The value of a hexadecimal digit in either case. -/
def hexValue? (c : Char) : Option Nat :=
  let n := c.toNat
  if 0x30 ≤ n && n ≤ 0x39 then some (n - 0x30)
  else if 0x41 ≤ n && n ≤ 0x46 then some (n - 0x37)
  else if 0x61 ≤ n && n ≤ 0x66 then some (n - 0x57)
  else none

def encodeByte (b : UInt8) : List Char :=
  if isUnreserved b.toNat then [Char.ofNat b.toNat]
  else if b.toNat == 0x20 then ['+']
  else ['%', hexDigit (b.toNat / 16), hexDigit (b.toNat % 16)]

/-- A name or a value in written form. -/
def encodeText (s : String) : List Char := (Utf8.encode s.toList).flatMap encodeByte

def encodePair (p : String × String) : List Char := encodeText p.1 ++ '=' :: encodeText p.2

/-- The pairs in written form, without a separator in front. -/
def encodePairs : List (String × String) → List Char
  | [] => []
  | [p] => encodePair p
  | p :: q :: rest => encodePair p ++ '&' :: encodePairs (q :: rest)

/-- The query string of a list of pairs. -/
def encode (pairs : List (String × String)) : String := String.ofList (encodePairs pairs)

/-- The bytes that a written name or value stands for. -/
def decodeBytes : List Char → List UInt8
  | [] => []
  | '+' :: rest => 0x20 :: decodeBytes rest
  | '%' :: a :: b :: rest =>
    match hexValue? a, hexValue? b with
    | some x, some y => UInt8.ofNat (16 * x + y) :: decodeBytes rest
    | _, _ => 0x25 :: decodeBytes (a :: b :: rest)
  | c :: rest => Utf8.encodeChar c ++ decodeBytes rest
termination_by l => l.length

/-- The text of a written name or value. -/
def decodeText (l : List Char) : String := String.ofList (Utf8.decodeLossy (decodeBytes l))

/-- A part cut at its first equals sign, which neither half keeps. -/
def decodePart (part : List Char) : String × String :=
  (decodeText (part.takeWhile (· != '=')), decodeText ((part.dropWhile (· != '=')).drop 1))

/-- The pairs of a query string. -/
def decode (query : String) : List (String × String) :=
  ((Text.splitParts '&' query.toList).filter (!·.isEmpty)).map decodePart

end BenchCompare.Form
