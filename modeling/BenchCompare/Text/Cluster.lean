import BenchCompare.Text.ClusterTable
import BenchCompare.Text.Ranges

/-!
# Clusters

A cluster is what a reader takes for one character: a letter with its marks, a syllable, a flag, or an emoji that
is made of several. `clusters` cuts a text into its extended grapheme clusters.
-/

namespace BenchCompare.Text

/-! ### How characters join -/

/-- How a character joins those beside it. -/
inductive Joining where
  | carriageReturn | lineFeed | control
  | extending | joiner | spacingMark | prepended
  /-- The parts of a Hangul syllable, and a syllable without or with a final consonant. -/
  | leading | vowel | trailing | openSyllable | closedSyllable
  | indicator | pictograph | consonant | other
deriving DecidableEq, Repr

def zeroWidthJoiner : Char := '\u200D'

/-- A letter of a flag. -/
def isIndicator (c : Char) : Bool := 0x1F1E6 ≤ c.toNat && c.toNat ≤ 0x1F1FF

/-- A skin tone. -/
def isSkinTone (c : Char) : Bool := 0x1F3FB ≤ c.toNat && c.toNat ≤ 0x1F3FF

/-- A composed Hangul syllable. -/
def isSyllable (c : Char) : Bool := 0xAC00 ≤ c.toNat && c.toNat ≤ 0xD7A3

/-- How a character outside the first block joins. -/
def markJoining (c : Char) : Joining :=
  let n := c.toNat
  if c == zeroWidthJoiner then .joiner
  else if isIndicator c then .indicator
  else if isSkinTone c || inRanges n extendRanges then .extending
  else if isSyllable c then if (n - 0xAC00) % 28 = 0 then .openSyllable else .closedSyllable
  else if inRanges n controlRanges then .control
  else if inRanges n spacingMarkRanges then .spacingMark
  else if inRanges n prependRanges then .prepended
  else if inRanges n leadingRanges then .leading
  else if inRanges n vowelRanges then .vowel
  else if inRanges n trailingRanges then .trailing
  else if inRanges n pictographRanges then .pictograph
  else if inRanges n conjunctRanges then .consonant
  else .other

/-- How a character joins. -/
def joining (c : Char) : Joining :=
  if c == '\r' then .carriageReturn
  else if c == '\n' then .lineFeed
  else if 0x20 ≤ c.toNat && c.toNat < 0x7F then .other
  else markJoining c

/-- A mark that joins two consonants. -/
def isLinker (c : Char) : Bool := inRanges c.toNat linkerRanges

/-- A mark that may stand between consonants that are linked. All extending characters are, but for one that keeps
its neighbours apart. -/
def staysLinked (c : Char) : Bool := joining c matches .extending | .joiner && c != '\u200C'

/-! ### Boundaries -/

/-- What stands before a place in a text. -/
structure Preceding where
  last : Joining
  /-- An odd number of regional indicators. -/
  oddIndicators : Bool := false
  /-- A pictograph, then extending characters. -/
  pictograph : Bool := false
  /-- A pictograph, extending characters, then a joiner. -/
  joinedPictograph : Bool := false
  /-- A consonant with the marks on it. -/
  consonant : Bool := false
  /-- A consonant with the marks on it, one of them a linker. -/
  linked : Bool := false
deriving DecidableEq, Repr

namespace Preceding

/-- The beginning of a text. -/
def start : Preceding := { last := .control }

/-- What stands before the place after one more character. -/
def push (p : Preceding) (c : Char) : Preceding :=
  let j := joining c
  { last := j
    oddIndicators := j = .indicator && !p.oddIndicators
    pictograph := j = .pictograph || (p.pictograph && j = .extending)
    joinedPictograph := p.pictograph && j = .joiner
    consonant := j = .consonant || (p.consonant && staysLinked c)
    linked := p.consonant && staysLinked c && (p.linked || isLinker c) }

/-- The next character belongs to the cluster before it. -/
def joins (p : Preceding) (c : Char) : Bool :=
  match p.last, joining c with
  | .carriageReturn, .lineFeed => true
  | .carriageReturn, _ | .lineFeed, _ | .control, _ => false
  | _, .carriageReturn | _, .lineFeed | _, .control => false
  | .leading, .leading | .leading, .vowel | .leading, .openSyllable | .leading, .closedSyllable => true
  | .openSyllable, .vowel | .openSyllable, .trailing | .vowel, .vowel | .vowel, .trailing => true
  | .closedSyllable, .trailing | .trailing, .trailing => true
  | _, .extending | _, .joiner | _, .spacingMark => true
  | .prepended, _ => true
  | _, .consonant => p.linked
  | .joiner, .pictograph => p.joinedPictograph
  | .indicator, .indicator => p.oddIndicators
  | _, _ => false

end Preceding

/-! ### Clusters -/

/-- The characters that belong to the cluster before them, and the clusters after it. -/
def clustersAfter (p : Preceding) : List Char → List Char × List (List Char)
  | [] => ([], [])
  | c :: cs =>
    let (rest, others) := clustersAfter (p.push c) cs
    if p.joins c then (c :: rest, others) else ([], (c :: rest) :: others)

/-- The clusters of a text. -/
def clusters (s : List Char) : List (List Char) := (clustersAfter .start s).2

end BenchCompare.Text
