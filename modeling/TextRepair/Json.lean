/-!
# Data values

The values of JSON texts. Objects keep their fields in order and may name one twice. Whole numbers
from `-2^63` up to but not including `2^64` stay exact and all others are binary floating point.
`unreadable` stands for what is well-formed but has no value: a number beyond the floating-point
range, or a text with half of a surrogate pair. It may be passed over but not used.
-/

namespace TextRepair

/-- A data value. -/
inductive Json where
  | null
  | bool (b : Bool)
  | int (n : Int)
  | float (x : Float)
  | text (s : String)
  | list (items : List Json)
  | object (fields : List (String × Json))
  | unreadable
  deriving Inhabited

namespace Json

/-- A natural number. -/
def nat (n : Nat) : Json :=
  .int n

/-- A value, or null in its absence. -/
def option {α : Type} (encode : α → Json) : Option α → Json
  | none => .null
  | some a => encode a

/-- The values of a list in order. -/
def listOf {α : Type} (encode : α → Json) (xs : List α) : Json :=
  .list (xs.map encode)

/-- A list of texts. -/
def texts (xs : List String) : Json :=
  listOf .text xs

/-- The first value of a field. -/
def field? (name : String) : Json → Option Json
  | .object fields => (fields.find? (·.1 = name)).map Prod.snd
  | _ => none

/-- Whether every part of the value can be used and lists and objects are nested at most `depth`
deep. -/
def isReadable : (depth : Nat) → Json → Bool
  | 0, j =>
    match j with
    | .list _ | .object _ | .unreadable => false
    | _ => true
  | depth + 1, j =>
    match j with
    | .list items => items.all (isReadable depth)
    | .object fields => fields.all fun field => isReadable depth field.2
    | .unreadable => false
    | _ => true

end Json

end TextRepair
