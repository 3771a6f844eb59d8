import BenchCompare.Query.Form
import BenchCompare.Text.Casing

/-!
# Request targets

The part of a URL after its origin, in the form in which it is sent: the path without `.` and `..` segments, then
the query, with every character escaped that may not stand there. A fragment is not sent.

* `requestTarget?`: the target of a URL at an origin, `none` if the URL leads elsewhere.
-/

namespace BenchCompare.Api

/-- The space and the control characters below it, which do not count at the ends of a URL. -/
def isEdge (c : Char) : Bool := c.toNat ≤ 0x20

/-- Characters that do not count anywhere in a URL. -/
def isIgnored (c : Char) : Bool := c == '\t' || c == '\n' || c == '\r'

/-- The characters of a URL that count. -/
def significant (url : List Char) : List Char :=
  (((url.dropWhile isEdge).reverse.dropWhile isEdge).reverse).filter (!isIgnored ·)

/-- Bytes that are escaped in a path and in a query. -/
def isEscaped (b : Nat) : Bool :=
  b ≤ 0x20 || 0x7F ≤ b || b == 0x22 || b == 0x23 || b == 0x3C || b == 0x3E

/-- Bytes that are escaped in a path. -/
def isEscapedInPath (b : Nat) : Bool := isEscaped b || b == 0x3F || b == 0x60 || b == 0x7B || b == 0x7D

/-- Bytes that are escaped in a query. -/
def isEscapedInQuery (b : Nat) : Bool := isEscaped b || b == 0x27

/-- The text in UTF-8, with `%XX` for every byte that is escaped. -/
def escape (escaped : Nat → Bool) (l : List Char) : List Char :=
  (Utf8.encode l).flatMap fun b =>
    if escaped b.toNat then ['%', Form.hexDigit (b.toNat / 16), Form.hexDigit (b.toNat % 16)]
    else [Char.ofNat b.toNat]

/-- A segment of a path, by what it does to the segments before it. -/
inductive Segment where
  | name (text : List Char) | here | parent
deriving DecidableEq, Repr

/-- A segment as it is written. A point may be escaped. -/
def Segment.ofChars (l : List Char) : Segment :=
  let text := Text.lower (String.ofList l)
  if text ∈ [".", "%2e"] then .here
  else if text ∈ ["..", ".%2e", "%2e.", "%2e%2e"] then .parent
  else .name l

/-- The name of a drive, such as `C:`. -/
def isDrive : List Char → Bool
  | [letter, mark] => letter.isAlpha && (mark == ':' || mark == '|')
  | _ => false

/-- The path above a path. There is none above a drive. -/
def above (path : List (List Char)) : List (List Char) :=
  if path.getLast?.any isDrive then path else path.dropLast

/-- The path that one more segment leads to. The last segment of a path leaves a slash behind if it has no name. -/
def follow (isLast : Bool) (path : List (List Char)) (s : Segment) : List (List Char) :=
  match s with
  | .name text => path ++ [text]
  | .here => if isLast then path ++ [[]] else path
  | .parent => if isLast then above path ++ [[]] else above path

/-- The path that segments lead to. -/
def walk (path : List (List Char)) : List (List Char) → List (List Char)
  | [] => path
  | [s] => follow true path (.ofChars s)
  | s :: t :: rest => walk (follow false path (.ofChars s)) (t :: rest)

/-- A path in the form in which it is sent. A backslash counts as a slash. -/
def sentPath (l : List Char) : List Char :=
  let l := l.map fun c => if c == '\\' then '/' else c
  let l := match l with
    | '/' :: rest => rest
    | l => l
  (walk [] (Text.splitParts '/' l)).flatMap fun s => '/' :: escape isEscapedInPath s

/-- The query, with its question mark, in the form in which it is sent. -/
def sentQuery : List Char → List Char
  | [] => []
  | c :: rest => c :: escape isEscapedInQuery rest

/-- The target of a URL at an origin. -/
def requestTarget? (origin url : String) : Option String :=
  let url := significant url.toList
  if origin.toList.isPrefixOf url then
    let rest := url.drop origin.toList.length
    match rest with
    | [] => some "/"
    | c :: _ =>
      if c ∈ ['/', '\\', '?', '#'] then
        let sent := rest.takeWhile (· != '#')
        some (String.ofList (sentPath (sent.takeWhile (· != '?')) ++ sentQuery (sent.dropWhile (· != '?'))))
      else none
  else none

end BenchCompare.Api
