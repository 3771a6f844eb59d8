import BenchCompare.Params
import BenchCompare.Shortcut.Chord

/-!
# Shortcuts of the pickers

The chords that open the pickers, in the order in which they were mounted. A side has at most one chord, and the
chord mounted first wins where two of them fit.
-/

namespace BenchCompare

/-- What has the keyboard. -/
inductive Focus where
  | dashboard | text
deriving DecidableEq, Repr

structure Bindings where
  mounted : List (Side × Chord) := []
deriving DecidableEq, Repr

namespace Bindings

def unmount (b : Bindings) (side : Side) : Bindings := ⟨b.mounted.filter (·.1 != side)⟩

/-- Mounts a chord in place of the one that the side had. -/
def mount (b : Bindings) (side : Side) (chord : Chord) : Bindings := ⟨(b.unmount side).mounted ++ [(side, chord)]⟩

def chord? (b : Bindings) (side : Side) : Option Chord := b.mounted.lookup side

def isMounted (b : Bindings) (side : Side) : Bool := b.mounted.any (·.1 == side)

/-- The side whose picker a keystroke opens. A text that is being typed has all keys to itself. -/
def route (b : Bindings) (k : Keystroke) : Focus → Option Side
  | .text => none
  | .dashboard => (b.mounted.find? fun p => p.2.Plays k).map (·.1)

end Bindings

end BenchCompare
