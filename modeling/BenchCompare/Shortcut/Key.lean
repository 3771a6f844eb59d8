/-!
# Keys

A keystroke is a key with the modifiers that are held down.
-/

namespace BenchCompare

inductive Key where
  | char (c : Char)
  | enter | esc | tab | backTab | backspace | delete | insert
  | up | down | left | right | pageUp | pageDown | home | endKey
  | function (n : Nat)
  /-- A key without a character or a place to go to, such as a lock, a modifier or a key of a player. -/
  | special (code : Nat)
deriving DecidableEq, Repr

/-- The modifiers of a keystroke. -/
structure Modifiers where
  ctrl : Bool := false
  alt : Bool := false
  shift : Bool := false
  superKey : Bool := false
  hyperKey : Bool := false
  metaKey : Bool := false
deriving DecidableEq, Repr

structure Keystroke where
  key : Key
  mods : Modifiers := {}
deriving DecidableEq, Repr

/-- The keystroke of a character without modifiers. -/
def Keystroke.plain (c : Char) : Keystroke := { key := .char c }

end BenchCompare
