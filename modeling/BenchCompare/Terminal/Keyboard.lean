import BenchCompare.Shortcut.Key
import BenchCompare.Text.Casing
import BenchCompare.Text.Utf8

/-!
# Keys from a terminal

A terminal in raw mode sends bytes: characters in UTF-8, control codes, and sequences that begin with an escape
code. Other events, such as pasted text or a change of focus, are no keystrokes.

* `Keyboard.decode`: the keystrokes of the bytes that a terminal sends.
-/

namespace BenchCompare.Keyboard

/-- What the bytes that have been received so far amount to. -/
inductive Reading where
  /-- More bytes belong to it. -/
  | incomplete
  /-- No keystroke, known or not. -/
  | other
  | key (k : Keystroke)
deriving DecidableEq, Repr

def bare (k : Key) : Reading := .key { key := k }

/-! ### Characters -/

/-- The number of bytes of a character with this first byte, none if no character begins with it. -/
def charLength? (first : Nat) : Option Nat :=
  if first < 0x80 then some 1
  else if first < 0xC0 then none
  else if first < 0xE0 then some 2
  else if first < 0xF0 then some 3
  else if first < 0xF8 then some 4
  else none

/-- A byte of a character after its first one. -/
def isContinuation (b : UInt8) : Bool := 0x80 ≤ b && b < 0xC0

/-- A capital letter comes with the shift key. -/
def isCapital (c : Char) : Bool := Text.lower c.toString != c.toString

/-- A character in UTF-8. -/
def char (buffer : List UInt8) : Reading :=
  match Utf8.decode? buffer with
  | some [c] => .key { key := .char c, mods := { shift := isCapital c } }
  | _ =>
    match charLength? (buffer.headD 0).toNat with
    | some n => if buffer.length < n && (buffer.drop 1).all isContinuation then .incomplete else .other
    | none => .other

/-- The control key with a letter. -/
def control (c : Nat) : Reading := .key { key := .char (Char.ofNat c), mods := { ctrl := true } }

/-- A code below the space, or a character. -/
def single (buffer : List UInt8) : Reading :=
  let b := (buffer.headD 0).toNat
  if b = 0x0D then bare .enter
  else if b = 0x09 then bare .tab
  else if b = 0x7F then bare .backspace
  else if b = 0x00 then control 0x20
  else if b ≤ 0x1A then control (b + 0x60)
  else if 0x1C ≤ b && b ≤ 0x1F then control (b + 0x18)
  else char buffer

/-! ### Sequences -/

/-- The key that a final letter stands for. -/
def letterKey? (b : Nat) : Option Key :=
  if b = 0x41 then some .up
  else if b = 0x42 then some .down
  else if b = 0x43 then some .right
  else if b = 0x44 then some .left
  else if b = 0x46 then some .endKey
  else if b = 0x48 then some .home
  else if b = 0x50 || b = 0x51 || b = 0x53 then some (.function (b - 0x4F))
  else none

/-- The key that a number before `~` stands for. -/
def numberKey? (n : Nat) : Option Key :=
  if n = 1 || n = 7 then some .home
  else if n = 2 then some .insert
  else if n = 3 then some .delete
  else if n = 4 || n = 8 then some .endKey
  else if n = 5 then some .pageUp
  else if n = 6 then some .pageDown
  else if 11 ≤ n && n ≤ 15 then some (.function (n - 10))
  else if 17 ≤ n && n ≤ 21 then some (.function (n - 11))
  else if 23 ≤ n && n ≤ 26 then some (.function (n - 12))
  else if 28 ≤ n && n ≤ 29 then some (.function (n - 15))
  else if 31 ≤ n && n ≤ 34 then some (.function (n - 17))
  else none

/-- A decimal number below a limit, with or without a plus sign. -/
def number? (limit : Nat) (text : List UInt8) : Option Nat :=
  let digits := match text with
    | 0x2B :: rest => rest
    | _ => text
  if digits.isEmpty || digits.any (fun b => b < 0x30 || 0x39 < b) then none
  else
    let n := digits.foldl (fun n b => 10 * n + (b.toNat - 0x30)) 0
    if n < limit then some n else none

/-- A number of one byte. -/
def small? (text : List UInt8) : Option Nat := number? 256 text

/-- The character of a number. -/
def codePoint? (text : List UInt8) : Option Char :=
  (number? 0x110000 text).bind fun n => if n.isValidChar then some (Char.ofNat n) else none

/-- The parts between separators. -/
def split (separator : UInt8) : List UInt8 → List (List UInt8)
  | [] => [[]]
  | b :: rest =>
    if b = separator then [] :: split separator rest
    else match split separator rest with
      | [] => [[b]]
      | p :: ps => (b :: p) :: ps

/-- The parameters of a sequence, which stand between semicolons. -/
def parameters (body : List UInt8) : List (List UInt8) := split 0x3B body

/-- The numbers of a parameter, which stand between colons. -/
def subparameters (parameter : List UInt8) : List (List UInt8) := split 0x3A parameter

/-- The modifiers of a number: one for each bit of the number below it. -/
def modifiers (n : Nat) : Modifiers :=
  let bits := n - 1
  { shift := bits.testBit 0, alt := bits.testBit 1, ctrl := bits.testBit 2, superKey := bits.testBit 3
    hyperKey := bits.testBit 4, metaKey := bits.testBit 5 }

/-- The modifiers of a sequence, and whether its key goes down. -/
structure Manner where
  mods : Modifiers := {}
  pressed : Bool := true
deriving DecidableEq, Repr

/-- The second parameter of a sequence: the modifiers, then 2 for a key that is held and 3 for one that goes up. -/
def manner? (ps : List (List UInt8)) : Option Manner :=
  match ps with
  | _ :: second :: _ =>
    match subparameters second with
    | [] => none
    | mask :: kind =>
      (small? mask).map fun n =>
        let kind := (kind.head?.bind small?).getD 1
        { mods := modifiers n, pressed := kind ≠ 2 && kind ≠ 3 }
  | _ => none

/-- A key in a manner. A key that is held or goes up is no keystroke. -/
def Manner.apply (m : Manner) (k : Key) : Reading := if m.pressed then .key { key := k, mods := m.mods } else .other

/-- A sequence with a letter at its end. Without modifiers of their own parameter, its last digit stands for them. -/
def lettered (body : List UInt8) (final : Nat) : Reading :=
  match letterKey? final with
  | none => .other
  | some k =>
    match manner? (parameters body) with
    | some m => m.apply k
    | none =>
      match small? [body.getLast?.getD 0] with
      | some n => Manner.apply { mods := modifiers n } k
      | none => .other

/-- A sequence of a number with `~` at its end. -/
def numbered (body : List UInt8) : Reading :=
  let ps := parameters body
  match (small? (ps.headD [])).bind numberKey? with
  | some k => ((manner? ps).getD {}).apply k
  | none => .other

/-! ### Keys by their codes -/

/-- The keys of the number pad after its digits, from 57409 on. -/
def padKeys : List Key :=
  [.char '.', .char '/', .char '*', .char '-', .char '+', .enter, .char '=', .char ',', .left, .right, .up, .down,
    .pageUp, .pageDown, .home, .endKey, .insert, .delete]

/-- The key of a code above all characters in use. -/
def functionalKey? (code : Nat) : Option Key :=
  if 57376 ≤ code && code ≤ 57398 then some (.function (code - 57363))
  else if 57399 ≤ code && code ≤ 57408 then some (.char (Char.ofNat (code - 57399 + 0x30)))
  else if 57409 ≤ code && code ≤ 57426 then padKeys[code - 57409]?
  else if (57358 ≤ code && code ≤ 57363) || (57427 ≤ code && code ≤ 57454) then some (.special code)
  else none

/-- The key of a character. -/
def characterKey (shift : Bool) (c : Char) : Key :=
  if c.toNat = 0x1B then .esc
  else if c.toNat = 0x0D then .enter
  else if c.toNat = 0x09 then if shift then .backTab else .tab
  else if c.toNat = 0x7F then .backspace
  else .char c

/-- A sequence of a code with `u` at its end. With the shift key, the character that it gives may follow the code. -/
def coded (body : List UInt8) : Reading :=
  let ps := parameters body
  let codes := subparameters (ps.headD [])
  let m := (manner? ps).getD {}
  let key? := match (number? 0x110000 (codes.headD [])).bind functionalKey? with
    | some k => some k
    | none => (codePoint? (codes.headD [])).map (characterKey m.mods.shift)
  match key?, codes[1]?.bind codePoint? with
  | none, _ => .other
  | some k, none => m.apply k
  | some k, some shifted =>
    if m.mods.shift then Manner.apply { m with mods := { m.mods with shift := false } } (.char shifted) else m.apply k

/-- A sequence that begins with a digit, without its final byte. -/
def parametric (body : List UInt8) (final : Nat) : Reading :=
  if final = 0x7E then numbered body
  else if final = 0x75 then coded body
  else lettered body final

/-! ### Sequences as a whole -/

/-- What stands before and after pasted text. -/
def pasteStart : List UInt8 := [0x32, 0x30, 0x30, 0x7E]

def pasteEnd : List UInt8 := [0x1B, 0x5B, 0x32, 0x30, 0x31, 0x7E]

/-- A sequence that begins with an escape code and a bracket, without these two. -/
def bracketed (body : List UInt8) : Reading :=
  let last := (body.getLast?.getD 0).toNat
  match body with
  | [] => .incomplete
  | first :: rest =>
    let b := first.toNat
    if b = 0x5B then
      match rest with
      | [] => .incomplete
      | n :: _ => if 0x41 ≤ n.toNat && n.toNat ≤ 0x45 then bare (.function (n.toNat - 0x40)) else .other
    else if b = 0x5A then .key { key := .backTab, mods := { shift := true } }
    else if b = 0x4D then if body.length < 4 then .incomplete else .other
    else if b = 0x3C then if last = 0x4D || last = 0x6D then .other else .incomplete
    else if b = 0x3F then if last = 0x63 || (last = 0x75 && 3 ≤ body.length) then .other else .incomplete
    else if 0x30 ≤ b && b ≤ 0x39 then
      if last < 0x40 || 0x7E < last || rest.isEmpty then .incomplete
      else if pasteStart.isPrefixOf body then if pasteEnd.isSuffixOf body then .other else .incomplete
      else parametric body.dropLast last
    else match letterKey? b with
      | some k => bare k
      | none => .other

/-- What the bytes amount to, where `more` says whether others have been sent after them. -/
def interpret (more : Bool) : List UInt8 → Reading
  | [] => .incomplete
  | b :: rest =>
    if b ≠ 0x1B then single (b :: rest)
    else match rest with
      | [] => if more then .incomplete else bare .esc
      | c :: body =>
        if c = 0x5B then bracketed body
        else if c = 0x4F then
          match body with
          | [] => .incomplete
          | d :: _ =>
            if d = 0x52 then bare (.function 3)
            else match letterKey? d.toNat with
              | some k => bare k
              | none => .other
        else if c = 0x1B then bare .esc
        else match single (c :: body) with
          | .key k => .key { k with mods := { k.mods with alt := true } }
          | r => r

/-- The keystrokes of the bytes after those that have been received. -/
def decodeFrom (received : List UInt8) : List UInt8 → List Keystroke
  | [] => []
  | b :: rest =>
    let buffer := received ++ [b]
    match interpret (!rest.isEmpty) buffer with
    | .incomplete => decodeFrom buffer rest
    | .other => decodeFrom [] rest
    | .key k => k :: decodeFrom [] rest

/-- The keystrokes of the bytes that a terminal sends. -/
def decode (bytes : List UInt8) : List Keystroke := decodeFrom [] bytes

end BenchCompare.Keyboard
