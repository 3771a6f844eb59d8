/-!
# Plain text

Where output is no terminal, what steers one is left out of it: sequences that begin with an escape code, and the
controls that are no white space. A sequence that does not end takes what follows with it, up to the next one.

* `Plain.text`: what remains of a text.
-/

namespace BenchCompare.Plain

/-- What is being read. -/
inductive Mode where
  | text
  /-- After an escape code, and after a mark that needs one more character. -/
  | escape | escapeRest
  /-- A sequence that ends with a letter or a like character. -/
  | sequence
  /-- The title of a window, which ends with a bell. -/
  | title
  /-- The beginning of a command to the device, its parameters, and the marks after them. -/
  | device | deviceParameters | deviceRest
  /-- A string of which nothing is shown. -/
  | string
deriving DecidableEq, Repr

/-- How far a text has been read. -/
structure State where
  mode : Mode := .text
  /-- White space within a sequence is shown, and so is the text after it up to the next control. -/
  showing : Bool := false
deriving DecidableEq, Repr

def isSpace (c : Char) : Bool := c == ' ' || c == '\t' || c == '\n' || c == '\x0c' || c == '\r'

/-- A character of one byte that is shown. -/
def isVisible (c : Char) : Bool := isSpace c || (0x20 ≤ c.toNat && c.toNat ≤ 0x7E)

/-- White space that is shown within a sequence. -/
def isBreak (c : Char) : Bool := isSpace c && c != ' '

def isBetween (c : Char) (first last : Nat) : Bool := first ≤ c.toNat && c.toNat ≤ last

/-- The code that ends a string is one of the bytes of the character after its first one. -/
def holdsTerminator (c : Char) : Bool := (c.toString.toUTF8.toList.drop 1).contains 0x9C

/-- The mode after a character, other than the codes that end every sequence. -/
def Mode.next (m : Mode) (c : Char) : Mode :=
  match m with
  | .text => .text
  | .escape =>
    if isBetween c 0x20 0x2F then .escapeRest
    else if c = '[' then .sequence
    else if c = ']' then .title
    else if c = 'P' then .device
    else if c = 'X' || c = '^' || c = '_' then .string
    else if isBetween c 0x30 0x7E then .text
    else .escape
  | .escapeRest => if isBetween c 0x30 0x7E then .text else .escapeRest
  | .sequence => if isBetween c 0x40 0x7E then .text else .sequence
  | .title => if c = '\x07' then .text else .title
  | .device =>
    if isBetween c 0x20 0x2F then .deviceRest
    else if c = ':' || isBetween c 0x40 0x7E then .string
    else if isBetween c 0x30 0x3F then .deviceParameters
    else .device
  | .deviceParameters =>
    if isBetween c 0x20 0x2F then .deviceRest
    else if c = ':' || isBetween c 0x3C 0x7E then .string
    else .deviceParameters
  | .deviceRest => if isBetween c 0x30 0x7E then .string else .deviceRest
  | .string => if holdsTerminator c then .text else .string

/-- The controls of a mode are carried out, so that white space among them is shown. -/
def Mode.carriesOut (m : Mode) : Bool := m matches .escape | .escapeRest | .sequence

/-- Reads one character, and says whether it is shown. -/
def State.read (s : State) (c : Char) : State × Bool :=
  if c = '\x1b' then ({ mode := .escape }, false)
  else if c = '\x18' || c = '\x1a' then ({}, false)
  else if s.mode = .text || s.showing then
    if 0x80 ≤ c.toNat then ({ showing := true }, true)
    else ({ s with showing := isVisible c }, isVisible c)
  else if s.mode.carriesOut && isBreak c then ({ s with showing := true }, true)
  else ({ mode := s.mode.next c }, false)

/-- The characters that are shown of a text. -/
def shownAfter (s : State) : List Char → List Char
  | [] => []
  | c :: cs =>
    let (next, shown) := s.read c
    if shown then c :: shownAfter next cs else shownAfter next cs

/-- What remains of a text. -/
def text (s : String) : String := String.ofList (shownAfter {} s.toList)

end BenchCompare.Plain
