import BenchCompare.Text.CaseTable
import BenchCompare.Text.Ranges

/-!
# Upper and lower case

* `lower`: the full lower case of a text. A capital sigma at the end of a word becomes the final sigma.
* `capitalize`: the text with its first character in full upper case.
-/

namespace BenchCompare.Text

/-- The code point that the runs give for `n`, if one of them holds `n`. -/
def CaseRun.map? (n : Nat) : List CaseRun → Option Nat
  | [] => none
  | r :: rest =>
    if n < r.first then none
    else if n ≤ r.last then
      if (n - r.first) % r.stride == 0 then some (n + r.shift).toNat else none
    else map? n rest

/-- The lower case of one character, whatever stands around it. -/
def lowerChar (c : Char) : List Char :=
  if c.toNat == 0x130 then ['i', Char.ofNat 0x307]
  else match CaseRun.map? c.toNat lowerRuns with
    | some m => [Char.ofNat m]
    | none => [c]

/-- The upper case of one character. -/
def upperChar (c : Char) : List Char :=
  match upperExpansions.lookup c.toNat with
  | some ms => ms.map Char.ofNat
  | none => match CaseRun.map? c.toNat upperRuns with
    | some m => [Char.ofNat m]
    | none => [c]

def isCased (c : Char) : Bool := inRanges c.toNat casedRanges

def isCaseIgnorable (c : Char) : Bool := inRanges c.toNat caseIgnorableRanges

/-- A cased letter stands next in this direction, ignorable characters aside. -/
def meetsCased (l : List Char) : Bool :=
  match l.dropWhile isCaseIgnorable with
  | [] => false
  | c :: _ => isCased c

/-- The lower case of `l`, which follows the characters `before`, nearest first. -/
def lowerAfter (before : List Char) : List Char → List Char
  | [] => []
  | c :: rest =>
    (if c == 'Σ' then (if meetsCased before && !meetsCased rest then ['ς'] else ['σ']) else lowerChar c)
      ++ lowerAfter (c :: before) rest

/-- The full lower case of a text. -/
def lower (s : String) : String := String.ofList (lowerAfter [] s.toList)

/-- The text with its first character in upper case. -/
def capitalize (s : String) : String :=
  match s.toList with
  | [] => ""
  | c :: rest => String.ofList (upperChar c ++ rest)

end BenchCompare.Text
