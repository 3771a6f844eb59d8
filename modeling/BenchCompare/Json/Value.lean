import BenchCompare.Json.Numeral

/-!
# JSON values

A text inside a value may fail to be Unicode, because its bytes are ill-formed or an escape names half of a
surrogate pair. Such a value can be read over, but its text cannot be used: it is `none`.
-/

namespace BenchCompare.Json

inductive Value where
  | null
  | bool (b : Bool)
  | num (n : Numeral)
  | str (text : Option String)
  | arr (items : List Value)
  | obj (fields : List (Option String × Value))
deriving Repr, Inhabited

namespace Value

def text (s : String) : Value := .str (some s)

/-- The object with these names and values, in this order. -/
def ofFields (fields : List (String × Value)) : Value := .obj (fields.map fun f => (some f.1, f.2))

/-- The numeral of a double, or null where the double is no number. -/
def ofFloat (x : Float) : Value :=
  match Numeral.ofFloat? x with
  | some n => .num n
  | none => .null

def toText? : Value → Option String
  | .str t => t
  | _ => none

def toFloat? : Value → Option Float
  | .num n => n.toFloat?
  | _ => none

end Value

/-- What a structure is read from: its fields by name, or its first values in declared order. -/
inductive Source where
  | named (fields : List (String × Value))
  | listed (items : List Value)

/-- The fields of a structure with these declared names. Names must be Unicode, no declared name may come twice,
and a list must not be longer than the declaration. -/
def Source.ofValue? (declared : List String) : Value → Option Source
  | .obj fields => do
    let fields ← fields.mapM fun f => f.1.map fun name => (name, f.2)
    if declared.all fun name => (fields.filter (·.1 == name)).length ≤ 1 then some (.named fields) else none
  | .arr items => if items.length ≤ declared.length then some (.listed items) else none
  | _ => none

/-- The value of the field with this name and place in the declaration. -/
def Source.find? (name : String) (place : Nat) : Source → Option Value
  | .named fields => fields.lookup name
  | .listed items => items[place]?

/-- A field that has to be there. -/
def Source.get? {α : Type} (s : Source) (name : String) (place : Nat) (read : Value → Option α) : Option α :=
  (s.find? name place).bind read

/-- A field with a default. A value that is there has to be readable. -/
def Source.getD? {α : Type} (s : Source) (name : String) (place : Nat) (read : Value → Option α)
    (default : α) : Option α :=
  match s.find? name place with
  | none => some default
  | some v => read v

/-- The elements of an array. -/
def Value.toList? {α : Type} (read : Value → Option α) : Value → Option (List α)
  | .arr items => items.mapM read
  | _ => none

end BenchCompare.Json
