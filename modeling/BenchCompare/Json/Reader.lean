import BenchCompare.Json.Value
import BenchCompare.Text.Utf8

/-!
# Reading JSON

`Json.read?` reads the bytes of one JSON value with nothing but blank space around it. Values may be nested to
any depth. A reader step takes the bytes that are left and gives a result and the bytes after it.
-/

namespace BenchCompare.Json

def isBlankByte (b : UInt8) : Bool := b == 0x20 || b == 0x09 || b == 0x0A || b == 0x0D

def skipBlank (l : List UInt8) : List UInt8 := l.dropWhile isBlankByte

def isDigit (b : UInt8) : Bool := 0x30 ≤ b.toNat && b.toNat ≤ 0x39

/-! ## Texts -/

/-- A part of a text: a byte, or the code unit of a numbered escape. -/
inductive Piece where
  | byte (b : UInt8) | unit (n : Nat)
deriving DecidableEq, Repr

def hexValue? (b : UInt8) : Option Nat :=
  let n := b.toNat
  if 0x30 ≤ n && n ≤ 0x39 then some (n - 0x30)
  else if 0x41 ≤ n && n ≤ 0x46 then some (n - 0x37)
  else if 0x61 ≤ n && n ≤ 0x66 then some (n - 0x57)
  else none

/-- The code unit of four hexadecimal digits. -/
def unit? (a b c d : UInt8) : Option Nat := do
  some (4096 * (← hexValue? a) + 256 * (← hexValue? b) + 16 * (← hexValue? c) + (← hexValue? d))

/-- The byte that a backslash and this byte stand for. -/
def escaped? (b : UInt8) : Option UInt8 :=
  if b == 0x22 || b == 0x5C || b == 0x2F then some b
  else if b == 0x62 then some 0x08
  else if b == 0x66 then some 0x0C
  else if b == 0x6E then some 0x0A
  else if b == 0x72 then some 0x0D
  else if b == 0x74 then some 0x09
  else none

/-- The parts of a text up to its closing quote, and the bytes after that. -/
def pieces? : List UInt8 → Option (List Piece × List UInt8)
  | [] => none
  | b :: rest =>
    if b == 0x22 then some ([], rest)
    else if b.toNat < 0x20 then none
    else if b == 0x5C then
      match rest with
      | [] => none
      | e :: rest =>
        if e == 0x75 then
          match rest with
          | a :: b :: c :: d :: rest => do
            let n ← unit? a b c d
            let (ps, rest) ← pieces? rest
            some (.unit n :: ps, rest)
          | _ => none
        else do
          let b ← escaped? e
          let (ps, rest) ← pieces? rest
          some (.byte b :: ps, rest)
    else do
      let (ps, rest) ← pieces? rest
      some (.byte b :: ps, rest)

def isHighSurrogate (n : Nat) : Bool := 0xD800 ≤ n && n ≤ 0xDBFF

def isLowSurrogate (n : Nat) : Bool := 0xDC00 ≤ n && n ≤ 0xDFFF

/-- The bytes of a text. Code units have to pair up where they are halves of a character. -/
def pieceBytes? : List Piece → Option (List UInt8)
  | [] => some []
  | .byte b :: rest => (pieceBytes? rest).map (b :: ·)
  | .unit n :: rest =>
    if isHighSurrogate n then
      match rest with
      | .unit m :: rest =>
        if isLowSurrogate m then
          let c := Char.ofNat (0x10000 + (n - 0xD800) * 0x400 + (m - 0xDC00))
          (pieceBytes? rest).map (Utf8.encodeChar c ++ ·)
        else none
      | _ => none
    else if isLowSurrogate n then none
    else (pieceBytes? rest).map (Utf8.encodeChar (Char.ofNat n) ++ ·)

/-- The text of its parts, if they are Unicode. -/
def pieceText? (ps : List Piece) : Option String :=
  ((pieceBytes? ps).bind Utf8.decode?).map String.ofList

/-- A text after its opening quote. -/
def text? (l : List UInt8) : Option (Option String × List UInt8) :=
  (pieces? l).map fun (ps, rest) => (pieceText? ps, rest)

/-! ## Numerals -/

def digitValues (l : List UInt8) : List Nat := l.map fun b => b.toNat - 0x30

/-- At least one digit. -/
def digits? (l : List UInt8) : Option (List Nat × List UInt8) :=
  match l.takeWhile isDigit with
  | [] => none
  | ds => some (digitValues ds, l.dropWhile isDigit)

/-- Digits without a leading zero. -/
def whole? (l : List UInt8) : Option (List Nat × List UInt8) := do
  let (ds, rest) ← digits? l
  match ds with
  | 0 :: _ :: _ => none
  | _ => some (ds, rest)

/-- The digits after a point, if there is one. -/
def fraction? (l : List UInt8) : Option (List Nat × List UInt8) :=
  match l with
  | 0x2E :: rest => digits? rest
  | _ => some ([], l)

/-- The exponent, if there is one. -/
def exponent? (l : List UInt8) : Option (Option Exponent × List UInt8) :=
  match l with
  | [] => some (none, [])
  | b :: rest =>
    if b == 0x65 || b == 0x45 then do
      let (negative, rest) := match rest with
        | 0x2B :: r => (false, r)
        | 0x2D :: r => (true, r)
        | r => (false, r)
      let (digits, rest) ← digits? rest
      some (some { negative, digits }, rest)
    else some (none, b :: rest)

/-- The part of a numeral after its sign. -/
def magnitude? (negative : Bool) (l : List UInt8) : Option (Numeral × List UInt8) := do
  let (whole, rest) ← whole? l
  let (fraction, rest) ← fraction? rest
  let (exponent, rest) ← exponent? rest
  some ({ negative, whole, fraction, exponent }, rest)

def numeral? (l : List UInt8) : Option (Numeral × List UInt8) :=
  match l with
  | 0x2D :: rest => magnitude? true rest
  | _ => magnitude? false l

/-! ## Values -/

/-- The bytes after these ones. -/
def dropBytes? : List UInt8 → List UInt8 → Option (List UInt8)
  | [], rest => some rest
  | _ :: _, [] => none
  | a :: word, b :: rest => if a == b then dropBytes? word rest else none

mutual

/-- A value; `fuel` bounds the length of the recursion. -/
def value? (fuel : Nat) (l : List UInt8) : Option (Value × List UInt8) :=
  match fuel, skipBlank l with
  | 0, _ => none
  | _, [] => none
  | fuel + 1, b :: rest =>
    if b == 0x22 then (text? rest).map fun (t, r) => (.str t, r)
    else if b == 0x5B then
      match skipBlank rest with
      | 0x5D :: r => some (.arr [], r)
      | r => (items? fuel r).map fun (vs, r) => (.arr vs, r)
    else if b == 0x7B then
      match skipBlank rest with
      | 0x7D :: r => some (.obj [], r)
      | r => (fields? fuel r).map fun (fs, r) => (.obj fs, r)
    else if b == 0x6E then (dropBytes? [0x75, 0x6C, 0x6C] rest).map fun r => (.null, r)
    else if b == 0x74 then (dropBytes? [0x72, 0x75, 0x65] rest).map fun r => (.bool true, r)
    else if b == 0x66 then (dropBytes? [0x61, 0x6C, 0x73, 0x65] rest).map fun r => (.bool false, r)
    else (numeral? (b :: rest)).map fun (n, r) => (.num n, r)

/-- The values of an array that has some, and its closing bracket. -/
def items? (fuel : Nat) (l : List UInt8) : Option (List Value × List UInt8) :=
  match fuel with
  | 0 => none
  | fuel + 1 => do
    let (v, rest) ← value? fuel l
    match skipBlank rest with
    | 0x2C :: rest =>
      let (vs, rest) ← items? fuel rest
      some (v :: vs, rest)
    | 0x5D :: rest => some ([v], rest)
    | _ => none

/-- The fields of an object that has some, and its closing brace. -/
def fields? (fuel : Nat) (l : List UInt8) : Option (List (Option String × Value) × List UInt8) :=
  match fuel, skipBlank l with
  | 0, _ => none
  | fuel + 1, 0x22 :: rest => do
    let (name, rest) ← text? rest
    match skipBlank rest with
    | 0x3A :: rest =>
      let (v, rest) ← value? fuel rest
      match skipBlank rest with
      | 0x2C :: rest =>
        let (fs, rest) ← fields? fuel rest
        some ((name, v) :: fs, rest)
      | 0x7D :: rest => some ([(name, v)], rest)
      | _ => none
    | _ => none
  | _, _ => none

end

/-- The value that the bytes spell. Each step of the recursion but every second one takes a byte. -/
def read? (l : List UInt8) : Option Value := do
  let (v, rest) ← value? (2 * l.length + 2) l
  if (skipBlank rest).isEmpty then some v else none

end BenchCompare.Json
