import BenchCompare.Json.Value

/-!
# Writing JSON

`Json.pretty` writes a value over several lines, two spaces deeper at each level. Empty arrays and objects stay
on one line, a text keeps its characters except quotes, backslashes and controls, and a text that is not Unicode
is written as null.
-/

namespace BenchCompare.Json

/-- The lower-case hexadecimal digit of a number below sixteen. -/
def lowerHexDigit (n : Nat) : Char := if n < 10 then Char.ofNat (0x30 + n) else Char.ofNat (0x57 + n)

/-- A character inside quotes. -/
def escapeChar (c : Char) : List Char :=
  if c == '"' then ['\\', '"']
  else if c == '\\' then ['\\', '\\']
  else if c.toNat < 0x20 then
    if c.toNat == 0x08 then ['\\', 'b']
    else if c.toNat == 0x09 then ['\\', 't']
    else if c.toNat == 0x0A then ['\\', 'n']
    else if c.toNat == 0x0C then ['\\', 'f']
    else if c.toNat == 0x0D then ['\\', 'r']
    else ['\\', 'u', '0', '0', lowerHexDigit (c.toNat / 16), lowerHexDigit (c.toNat % 16)]
  else [c]

def quote (s : String) : List Char := '"' :: s.toList.flatMap escapeChar ++ ['"']

/-- A new line with this indentation. -/
def newLine (depth : Nat) : List Char := '\n' :: List.replicate (2 * depth) ' '

def nullText : List Char := ['n', 'u', 'l', 'l']

def textChars : Option String → List Char
  | none => nullText
  | some s => quote s

/-- What stands in front of an element. -/
def comma (first : Bool) : List Char := if first then [] else [',']

mutual

/-- A value at a level of indentation. -/
def valueChars (depth : Nat) : Value → List Char
  | .null => nullText
  | .bool true => ['t', 'r', 'u', 'e']
  | .bool false => ['f', 'a', 'l', 's', 'e']
  | .num n => n.toText.toList
  | .str t => textChars t
  | .arr [] => ['[', ']']
  | .arr (v :: vs) => '[' :: itemsChars (depth + 1) true (v :: vs) ++ newLine depth ++ [']']
  | .obj [] => ['\x7b', '\x7d']
  | .obj (f :: fs) => '\x7b' :: fieldsChars (depth + 1) true (f :: fs) ++ newLine depth ++ ['\x7d']

/-- The values of an array, each on its own line, a comma in front of all but the first. -/
def itemsChars (depth : Nat) (first : Bool) : List Value → List Char
  | [] => []
  | v :: vs => comma first ++ newLine depth ++ valueChars depth v ++ itemsChars depth false vs

/-- The fields of an object, each on its own line, a comma in front of all but the first. -/
def fieldsChars (depth : Nat) (first : Bool) : List (Option String × Value) → List Char
  | [] => []
  | f :: fs => comma first ++ newLine depth ++ fieldChars depth f ++ fieldsChars depth false fs

/-- A name and its value. -/
def fieldChars (depth : Nat) : Option String × Value → List Char
  | (name, v) => textChars name ++ ':' :: ' ' :: valueChars depth v

end

/-- The value over several lines. -/
def pretty (v : Value) : String := String.ofList (valueChars 0 v)

end BenchCompare.Json
