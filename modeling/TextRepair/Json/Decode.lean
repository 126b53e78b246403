import TextRepair.Json

/-!
# Decoding data values

A decoder turns a data value into a value of another type, or into nothing. A record is an object, in
which fields may be missing and unknown fields are passed over, or a list of its fields in order. A
tagged record names its kind in one of its fields.

* `Decoder.record` : records, read field by field with `required`, `nullable` and `defaulted`.
* `Decoder.tagged` : tagged records.
* `Decoder.enum` : names out of a list.
-/

namespace TextRepair

/-- Which empty values stand for null. -/
inductive EmptyValues where
  | none
  /-- An object without fields. -/
  | objects
  /-- An object without fields and a list without items. -/
  | containers
  deriving DecidableEq, Repr

/-- Whether a value is null or stands for it. -/
def EmptyValues.includes (empty : EmptyValues) (j : Json) : Bool :=
  match j with
  | .null => true
  | .object [] => empty ≠ .none
  | .list [] => empty = .containers
  | _ => false

/-- What the decoding of a value depends on besides the value. -/
structure Surroundings where
  /-- How many lists and objects stand around the value. -/
  level : Nat
  /-- What stands for null in the long form of a name. -/
  empty : EmptyValues
  /-- Whether a record may be a list with more items than it has fields. -/
  allowsSpare : Bool

namespace Surroundings

/-- No surroundings. -/
def top : Surroundings where
  level := 0
  empty := .none
  allowsSpare := false

/-- The surroundings of what stands in a list or an object. -/
def inner (s : Surroundings) : Surroundings :=
  { s with level := s.level + 1 }

end Surroundings

/-- Turns data values into values of another type. -/
abbrev Decoder (α : Type) := Surroundings → Json → Option α

/-- The parts of a record that have not been read yet. -/
inductive Parts where
  | named (fields : List (String × Json))
  | listed (items : List Json)

/-- Reads a record, field by field in the order in which a list gives them. -/
abbrev RecordReader (α : Type) := ReaderT Surroundings (StateT Parts Option) α

namespace RecordReader

/-- The value of a field; nothing if it is missing. An object must not give it twice. -/
def part? (name : String) : RecordReader (Option Json) := do
  match ← get with
  | .named fields =>
    match fields.filter (·.1 = name) with
    | [] => return none
    | [field] => return some field.2
    | _ => failure
  | .listed [] => return none
  | .listed (item :: rest) =>
    set (Parts.listed rest)
    return some item

/-- Decodes the value of a field. -/
def decode {α : Type} (decoder : Decoder α) (j : Json) : RecordReader α :=
  fun s parts => (decoder s j).map fun a => (a, parts)

/-- A field that must be there. -/
def required {α : Type} (name : String) (decoder : Decoder α) : RecordReader α := do
  match ← part? name with
  | some j => decode decoder j
  | none => failure

/-- A field with a value to use in its absence. -/
def defaulted {α : Type} (name : String) (a : α) (decoder : Decoder α) : RecordReader α := do
  match ← part? name with
  | some j => decode decoder j
  | none => return a

/-- A field that may be null. An object may leave it out, a list may not. -/
def nullable {α : Type} (name : String) (decoder : Decoder α) : RecordReader (Option α) := do
  match ← part? name with
  | some .null => return none
  | some j => some <$> decode decoder j
  | none =>
    match ← get with
    | .named _ => return none
    | .listed _ => failure

end RecordReader

namespace Decoder

def bool : Decoder Bool := fun _ j =>
  match j with
  | .bool b => some b
  | _ => none

def text : Decoder String := fun _ j =>
  match j with
  | .text s => some s
  | _ => none

/-- A whole number from `low` up to but not including `high`. -/
def between (low high : Int) : Decoder Int := fun _ j =>
  match j with
  | .int n => if low ≤ n ∧ n < high then some n else none
  | _ => none

/-- A natural number below `size`. -/
def word (size : Nat) : Decoder Nat := fun s j =>
  (between 0 size s j).map Int.toNat

/-- A whole number of a word with `size` values, half of which are negative. -/
def signedWord (size : Nat) : Decoder Int :=
  let half : Nat := size / 2
  between (-(half : Int)) half

/-- The floating-point number next to a whole number. -/
def ofInt (n : Int) : Float :=
  let size := (UInt64.ofNat n.natAbs).toFloat
  if n < 0 then -size else size

/-- A number, whole or not. -/
def number : Decoder Float := fun _ j =>
  match j with
  | .float x => some x
  | .int n => some (ofInt n)
  | _ => none

/-- Null or a value. -/
def option {α : Type} (decoder : Decoder α) : Decoder (Option α) := fun s j =>
  match j with
  | .null => some none
  | _ => (decoder s j).map some

/-- The items of a list. -/
def list {α : Type} (decoder : Decoder α) : Decoder (List α) := fun s j =>
  match j with
  | .list items => items.mapM (decoder s.inner)
  | _ => none

/-- One of some values, given by its name. In the long form the name is the only field of an object
and has no value. -/
def enum {α : Type} (all : List α) (name : α → String) : Decoder α := fun s j =>
  let named (text : String) : Option α := all.find? fun a => name a = text
  match j with
  | .text text => named text
  | .object [(text, j)] => if s.empty.includes j then named text else none
  | _ => none

/-- Reads all parts of a record. -/
def finish {α : Type} (reader : RecordReader α) (s : Surroundings) (parts : Parts) : Option α :=
  match reader.run s parts with
  | some (a, .listed (_ :: _)) => if s.allowsSpare then some a else none
  | some (a, _) => some a
  | none => none

/-- A record. -/
def record {α : Type} (reader : RecordReader α) : Decoder α := fun s j =>
  match j with
  | .object fields => finish reader s.inner (.named fields)
  | .list items => finish reader s.inner (.listed items)
  | _ => none

/-- How deep lists and objects may be nested where all parts of a value have to be kept. -/
def maxDepth : Nat := 127

/-- A record whose kind, and with it its other fields, is given by the field `tag`, which comes first
in a list. All its parts must be readable. -/
def tagged {α : Type} (tag : String) (reader : String → Option (RecordReader α)) : Decoder α :=
  fun s j =>
    if !j.isReadable (maxDepth - s.level) then none
    else
      let inner := { s.inner with empty := .objects }
      match j with
      | .object fields =>
        match fields.filter (·.1 = tag) with
        | [(_, .text kind)] =>
          (reader kind).bind fun reader => finish reader inner (.named (fields.filter (·.1 ≠ tag)))
        | _ => none
      | .list (.text kind :: items) =>
        (reader kind).bind fun reader => finish reader inner (.listed items)
      | _ => none

/-- The value of a JSON text. -/
def ofValue? {α : Type} (decoder : Decoder α) (j : Json) : Option α :=
  decoder .top j

end Decoder

end TextRepair
