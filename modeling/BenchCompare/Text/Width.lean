import BenchCompare.Text.Cluster
import BenchCompare.Text.WidthTable

/-!
# Width on a terminal

`columns` counts the columns that a character takes by itself, and `width` those of a text, in which some
characters are drawn together: the parts of an emoji, a character with a selector of its style, and the ligatures
of some scripts. A text is read from its end, since what follows a character decides how it is drawn.
-/

namespace BenchCompare.Text

/-! ### Single characters -/

/-- The columns that a character takes by itself. -/
def columns (c : Char) : Nat :=
  let n := c.toNat
  if n < 0xAD then 1
  else if n = 0x17D8 then 3
  else if n = 0x17A4 then 2
  else if inRanges n zeroWidthRanges then 0
  else if inRanges n wideRanges then 2
  else 1

/-- The selector of the style of text. -/
def textSelector : Char := '\uFE0E'

/-- The selector of the style of emoji. -/
def emojiSelector : Char := '\uFE0F'

/-- A selector gives the character the style of emoji, in which it takes two columns. -/
def takesEmojiStyle (c : Char) : Bool := inRanges c.toNat styledRanges

/-- A selector gives the character the style of text, in which it takes one column. Enclosed ideographs keep
theirs. -/
def takesTextStyle (c : Char) : Bool :=
  inRanges c.toNat styledRanges && inRanges c.toNat emojiRanges && !(0x1F200 ≤ c.toNat && c.toNat ≤ 0x1F2FF)

/-- A mark that can be ignored, which no ligature is broken by. -/
def isIgnorableMark (c : Char) : Bool :=
  inRanges c.toNat [(0x34F, 0x34F), (0x17B4, 0x17B5), (0x180B, 0x180D), (0x180F, 0x180F), (0x200D, 0x200D),
    (0xFE00, 0xFE0F), (0xE0100, 0xE01EF)]

/-- A mark that passes the joining of Arabic letters on. -/
def isTransparent (c : Char) : Bool := columns c = 0 && !inRanges c.toNat fixedJoiningRanges

/-! ### Letters of ligatures -/

def isLam (c : Char) : Bool :=
  inRanges c.toNat [(0x644, 0x644), (0x6B5, 0x6B8), (0x76A, 0x76A), (0x8A6, 0x8A6), (0x8C7, 0x8C7)]

def isAlef (c : Char) : Bool :=
  inRanges c.toNat [(0x622, 0x623), (0x625, 0x625), (0x627, 0x627), (0x671, 0x673), (0x675, 0x675), (0x773, 0x774),
    (0x870, 0x882)]

/-- A Khmer letter that is written below the one before it, after a sign that says so. -/
def isSubscript (c : Char) : Bool :=
  inRanges c.toNat [(0x1780, 0x1782), (0x1784, 0x1787), (0x1789, 0x178C), (0x178E, 0x1793), (0x1795, 0x1798),
    (0x179B, 0x179D), (0x17A0, 0x17A0), (0x17A2, 0x17A2), (0x17A7, 0x17A7), (0x17AB, 0x17AC), (0x17AF, 0x17AF)]

def isTifinagh (c : Char) : Bool := inRanges c.toNat [(0x2D31, 0x2D65), (0x2D6F, 0x2D6F)]

/-- A Lisu tone letter that stands before another one. -/
def isFirstTone (c : Char) : Bool := 0xA4F8 ≤ c.toNat && c.toNat ≤ 0xA4FB

/-- A Lisu tone letter that stands after another one. -/
def isSecondTone (c : Char) : Bool := 0xA4FC ≤ c.toNat && c.toNat ≤ 0xA4FD

def isTagLetter (c : Char) : Bool := 0xE0061 ≤ c.toNat && c.toNat ≤ 0xE007A

def isTagDigit (c : Char) : Bool := 0xE0030 ≤ c.toNat && c.toNat ≤ 0xE0039

/-! ### What follows a character -/

/-- The end of a ligature, with a joiner before it where it needs one. -/
inductive Ligature where
  | alef | subscript | secondTone | vowelAndYa | linkedTifinagh
  | lamed (joined : Bool) | ya (joined : Bool) | tifinagh (joined : Bool) | orkhonI (joined : Bool)
deriving DecidableEq, Repr

/-- What follows a joiner of emoji, read backwards. -/
inductive Joined where
  | emoji | keycap
  | oneIndicator | evenIndicators | oddIndicators
  /-- The end of a flag of tags, with so many letters or digits before it. -/
  | tagEnd | tagLetters (n : Nat) | tagDigits (n : Nat)
deriving DecidableEq, Repr

/-- What follows a character, as far as it matters for the width of the two. -/
inductive Follower where
  | plain | lineFeed
  | emoji | skinTone | indicator | indicators
  | joined (j : Joined)
  | ligature (l : Ligature)
deriving DecidableEq, Repr

/-- What follows a character, and the selectors in front of that. -/
structure Following where
  follower : Follower := .plain
  textStyle : Bool := false
  emojiStyle : Bool := false
deriving DecidableEq, Repr

namespace Following

/-- The following text with a selector of emoji style in front. Ligatures and joined emoji are not broken by it. -/
def withEmojiStyle (f : Following) : Following :=
  match f.follower with
  | .ligature _ | .joined .emoji | .joined .keycap => { f with emojiStyle := true }
  | _ => { emojiStyle := true }

/-- The following text with a selector of text style in front. Ligatures are not broken by it. -/
def withTextStyle (f : Following) : Following :=
  match f.follower with
  | .ligature _ => { f with textStyle := true }
  | _ => { textStyle := true }

/-- The following text without a selector of emoji style that does not suit what is before it. -/
def dropEmojiStyle (f : Following) : Following :=
  if !f.emojiStyle then f
  else match f.follower with
    | .ligature _ => { f with emojiStyle := false }
    | _ => {}

/-- The joined emoji after it makes one emoji with a character in emoji style. -/
def joinsEmoji (f : Following) : Bool :=
  match f.follower with
  | .joined .emoji | .joined .keycap => true
  | _ => false

end Following

/-- The ligature with a joiner in front. -/
def Ligature.withJoiner : Ligature → Ligature
  | .lamed _ => .lamed true
  | .ya _ => .ya true
  | .tifinagh _ => .tifinagh true
  | .orkhonI _ => .orkhonI true
  | l => l

/-- What a character is to the one before it. -/
def Follower.ofChar (c : Char) : Follower :=
  if c.toNat < 0x5DC then .plain
  else if c.toNat = 0x5DC then .ligature (.lamed false)
  else if isAlef c then .ligature .alef
  else if isSubscript c then .ligature .subscript
  else if c.toNat = 0x1A10 then .ligature (.ya false)
  else if isTifinagh c then .ligature (.tifinagh false)
  else if isSecondTone c then .ligature .secondTone
  else if c.toNat = 0x10C03 then .ligature (.orkhonI false)
  else if isIndicator c then .indicator
  else if isSkinTone c then .skinTone
  else if inRanges c.toNat emojiRanges then .emoji
  else .plain

def Following.ofChar (c : Char) : Following :=
  if c = textSelector then { textStyle := true }
  else if c = emojiSelector then { emojiStyle := true }
  else { follower := .ofChar c }

/-! ### Characters drawn together -/

/-- The columns that a character adds before the end of a ligature, and what the two are together. -/
def Ligature.read? (l : Ligature) (c : Char) : Option (Int × Follower) :=
  match l with
  | .alef =>
    if isLam c then some (0, .plain) else if isTransparent c then some (0, .ligature .alef) else none
  | .lamed true => if c.toNat = 0x5D0 then some (0, .plain) else none
  | .subscript => if c.toNat = 0x17D2 then some (-1, .plain) else none
  | .ya true => if c.toNat = 0x1A17 then some (0, .ligature .vowelAndYa) else none
  | .vowelAndYa => if c.toNat = 0x1A15 then some (0, .plain) else none
  | .tifinagh joined =>
    if c.toNat = 0x2D7F then some (1, .ligature .linkedTifinagh)
    else if joined && isTifinagh c then some (0, .plain)
    else none
  | .linkedTifinagh => if isTifinagh c then some (-1, .plain) else none
  | .secondTone => if isFirstTone c then some (0, .plain) else none
  | .orkhonI true => if c.toNat = 0x10C32 then some (0, .plain) else none
  | _ => none

/-- The columns that a character adds before a joiner and an emoji, and what they are together. -/
def Joined.read? (j : Joined) (c : Char) : Option (Int × Follower) :=
  match j with
  | .emoji =>
    if c.toNat = 0x20E3 then some (0, .joined .keycap)
    else if isIndicator c then some (1, .joined .oneIndicator)
    else if isSkinTone c then some (0, .skinTone)
    else if c.toNat = 0xE007F then some (0, .joined .tagEnd)
    else if Follower.ofChar c = .emoji then some (0, .emoji)
    else none
  | .keycap => none
  | .oneIndicator => if isIndicator c then some (-1, .joined .evenIndicators) else none
  | .evenIndicators =>
    if isIndicator c then some (3, .joined .oddIndicators)
    else if c = zeroWidthJoiner then some (0, .joined .emoji)
    else none
  | .oddIndicators =>
    if isIndicator c then some (-1, .joined .evenIndicators)
    else if c = zeroWidthJoiner then some (0, .joined .emoji)
    else none
  | .tagEnd =>
    if isTagLetter c then some (0, .joined (.tagLetters 1))
    else if isTagDigit c then some (0, .joined (.tagDigits 1))
    else none
  | .tagLetters n =>
    if isTagLetter c && n < 6 then some (0, .joined (.tagLetters (n + 1)))
    else if isTagDigit c && n ≤ 4 then some (0, .joined (.tagDigits 1))
    else if c.toNat = 0x1F3F4 && 3 ≤ n then some (0, .emoji)
    else none
  | .tagDigits n =>
    if isTagDigit c && n < 3 then some (0, .joined (.tagDigits (n + 1)))
    else if c.toNat = 0x1F3F4 && n = 3 then some (0, .emoji)
    else none

/-- The columns that a character adds before what follows it, and what the two are together, if they are drawn
together. -/
def Follower.read? (f : Follower) (c : Char) : Option (Int × Follower) :=
  match f with
  | .plain | .lineFeed => none
  | .ligature l => l.read? c
  | .joined j => j.read? c
  | .emoji => if c = zeroWidthJoiner then some (0, .joined .emoji) else none
  | .skinTone =>
    if inRanges c.toNat modifiableRanges then some (0, .emoji)
    else if c = zeroWidthJoiner then some (0, .joined .emoji)
    else none
  | .indicator => if isIndicator c then some (1, .indicators) else none
  | .indicators =>
    if isIndicator c then some (1, .indicators)
    else if c = zeroWidthJoiner then some (0, .joined .emoji)
    else none

/-- A ligature goes on before a mark that can be ignored. -/
def Ligature.passes? (l : Ligature) (c : Char) : Option Ligature :=
  if l = .alef || !isIgnorableMark c then none
  else if c = zeroWidthJoiner then some l.withJoiner
  else some l

/-! ### Texts -/

/-- The columns that a character adds before what follows it, and what the two are together. -/
def addColumns (c : Char) (f : Following) : Int × Following :=
  if f.emojiStyle && takesEmojiStyle c then (if f.joinsEmoji then 0 else 2, { follower := .emoji })
  else
    let f := f.dropEmojiStyle
    if c = '\n' then (1, { follower := .lineFeed })
    else if c = '\r' && f.follower = .lineFeed then (0, {})
    else if c.toNat ≤ 0xA0 then (1, {})
    else if f = {} then (columns c, .ofChar c)
    else if c = emojiSelector then (0, f.withEmojiStyle)
    else if c = textSelector then (0, f.withTextStyle)
    else if f.textStyle && takesTextStyle c then (1, {})
    else match f.follower with
      | .ligature l =>
        match l.passes? c with
        | some l => (0, { follower := .ligature l })
        | none => read c f.follower
      | follower => read c follower
where
  /-- The columns that a character adds once selectors are out of the way. -/
  read (c : Char) (follower : Follower) : Int × Following :=
    match follower.read? c with
    | some (n, follower) => (n, { follower })
    | none => (columns c, .ofChar c)

/-- The columns of a text. -/
def width (s : List Char) : Nat :=
  (s.foldr (fun c (sum : Int × Following) =>
    let (n, f) := addColumns c sum.2
    (sum.1 + n, f)) (0, {})).1.toNat

end BenchCompare.Text
