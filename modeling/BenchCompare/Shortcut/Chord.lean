import BenchCompare.Shortcut.Key
import BenchCompare.Text.Blank
import BenchCompare.Text.Casing
import BenchCompare.Text.Quoted
import BenchCompare.Text.Search

/-!
# Chords

A chord is a character with modifiers, written like `ctrl+k`.

* `Chord.parse`: reads a chord. Names of modifiers stand before the character, in any letter case and with blank
  space around them. A letter under Shift is the capital without Shift, as terminals report it.
* `Chord.Plays`: whether a keystroke plays the chord. Shift itself is not compared, since the character shows
  it already.
* `Chord.label`: the chord as it is shown.
-/

namespace BenchCompare

/-- Why a text is no chord. -/
inductive ChordFault where
  | empty | unknownModifier | notOneCharacter
deriving DecidableEq, Repr

def ChordFault.reason : ChordFault → String
  | .empty => "empty"
  | .unknownModifier => "unknown modifier"
  | .notOneCharacter => "expected a single character key"

/-- A text that is no chord. -/
structure ChordError where
  raw : String
  fault : ChordFault
deriving DecidableEq, Repr

def ChordError.message (e : ChordError) : String :=
  "invalid shortcut " ++ Text.quoted e.raw ++ ": " ++ e.fault.reason

structure Chord where
  key : Char
  ctrl : Bool := false
  alt : Bool := false
  shift : Bool := false
deriving DecidableEq, Repr

namespace Chord

def isLetter (c : Char) : Bool := ('a' ≤ c && c ≤ 'z') || ('A' ≤ c && c ≤ 'Z')

/-- The chord of a character that is typed while these modifiers are held. -/
def ofChar (c : Char) (held : Modifiers) : Chord :=
  if isLetter c && held.shift then { key := c.toUpper, ctrl := held.ctrl, alt := held.alt }
  else if isLetter c then { key := c.toLower, ctrl := held.ctrl, alt := held.alt }
  else { key := c, ctrl := held.ctrl, alt := held.alt, shift := held.shift }

/-- The modifiers with the one of this name held down too. -/
def hold? (held : Modifiers) (name : String) : Option Modifiers :=
  let name := Text.lower (Text.trim name)
  if name ∈ ["ctrl", "control", "cmd", "meta"] then some { held with ctrl := true }
  else if name ∈ ["alt", "option"] then some { held with alt := true }
  else if name = "shift" then some { held with shift := true }
  else none

/-- Reads the parts of a chord, the modifiers first. -/
def ofParts (held : Modifiers) : List (List Char) → Except ChordFault Chord
  | [] => .error .notOneCharacter
  | [last] =>
    match Text.trimChars last with
    | [c] => .ok (ofChar c held)
    | _ => .error .notOneCharacter
  | part :: next :: rest =>
    match hold? held (String.ofList part) with
    | some held => ofParts held (next :: rest)
    | none => .error .unknownModifier

/-- The parts of a chord between plus signs. A plus sign that stands alone is a key. -/
def parts (chord : List Char) : List (List Char) :=
  if chord = ['+'] then [['+']] else Text.splitParts '+' chord

/-- Reads a chord. -/
def parse (raw : String) : Except ChordError Chord :=
  let chord := Text.trimChars raw.toList
  if chord = [] then .error ⟨raw, .empty⟩
  else match ofParts {} (parts chord) with
    | .ok c => .ok c
    | .error fault => .error ⟨raw, fault⟩

/-- The keystroke plays the chord. -/
def Plays (c : Chord) (k : Keystroke) : Prop :=
  k.key = .char c.key ∧ k.mods.ctrl = c.ctrl ∧ k.mods.alt = c.alt
    ∧ k.mods.superKey = false ∧ k.mods.hyperKey = false ∧ k.mods.metaKey = false

instance (c : Chord) (k : Keystroke) : Decidable (c.Plays k) := by unfold Plays; infer_instance

/-- The chord as it is shown. -/
def label (c : Chord) : String :=
  (if c.ctrl then "Ctrl+" else "") ++ (if c.alt then "Alt+" else "") ++ c.key.toString

end Chord

end BenchCompare
