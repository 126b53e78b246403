import TextRepair.Json
import TextRepair.Text.CharClass

/-!
# Numbers in JSON texts

`Literal.ofChars?` takes a number apart by the grammar. Its value is a whole number if it has neither
a point nor an exponent and fits a 64-bit word. Otherwise it is a floating-point number: as many
leading digits as fit a 64-bit word, scaled once by a power of ten. Further digits count for the place
of the point and not for the value.
-/

namespace TextRepair.Json

/-- A number as it is written. -/
structure Literal where
  negative : Bool
  whole : List Char
  /-- The digits after the point; none without a point. -/
  fraction : List Char
  /-- The sign and the digits of the exponent; none without one. -/
  exponent : Option (Bool × List Char)
  isWhole : Bool

namespace Literal

/-- The sign and digits after an exponent mark. -/
def exponentOf? (cs : List Char) : Option (Bool × List Char) :=
  let (below, digits) : Bool × List Char :=
    match cs with
    | '-' :: rest => (true, rest)
    | '+' :: rest => (false, rest)
    | _ => (false, cs)
  if !digits.isEmpty && digits.all Char.isDigit then some (below, digits) else none

/-- The literal with these parts, if what follows the digits so far is empty or an exponent. -/
def finish? (negative : Bool) (whole fraction rest : List Char) (isWhole : Bool) : Option Literal :=
  match rest with
  | [] => some { negative, whole, fraction, exponent := none, isWhole }
  | c :: rest =>
    if c = 'e' ∨ c = 'E' then
      (exponentOf? rest).map fun exponent =>
        { negative, whole, fraction, exponent := some exponent, isWhole := false }
    else none

/-- Reads a number: a whole part without superfluous zeros, a fraction with at least one digit, an
exponent with at least one digit. -/
def ofChars? (cs : List Char) : Option Literal :=
  let (negative, cs) : Bool × List Char :=
    match cs with
    | '-' :: rest => (true, rest)
    | _ => (false, cs)
  let whole := cs.takeWhile Char.isDigit
  let rest := cs.dropWhile Char.isDigit
  if whole.isEmpty || (whole.head? == some '0' && whole.length != 1) then none
  else
    match rest with
    | '.' :: rest =>
      let fraction := rest.takeWhile Char.isDigit
      if fraction.isEmpty then none
      else finish? negative whole fraction (rest.dropWhile Char.isDigit) false
    | _ => finish? negative whole [] rest true

/-- The bound of a 64-bit word. -/
def wordBound : Nat := UInt64.size

/-- Appends decimal digits to a number while it fits a 64-bit word; the digits that are left. -/
def absorb (significand : Nat) : List Char → Nat × List Char
  | [] => (significand, [])
  | c :: cs =>
    let next := 10 * significand + (c.toNat - '0'.toNat)
    if next < wordBound then absorb next cs else (significand, c :: cs)

/-- `value * 10 ^ exponent` in floating point, none beyond the range. The largest power of ten is
`10 ^ 308`; a smaller number is divided in steps, of which three leave nothing. -/
def scale (value : Float) (exponent : Int) : (steps : Nat) → Option Float
  | 0 => some 0.0
  | steps + 1 =>
    if exponent.natAbs ≤ 308 then
      let power := Float.ofScientific 1 false exponent.natAbs
      if 0 ≤ exponent then
        let scaled := value * power
        if scaled.isInf then none else some scaled
      else some (value / power)
    else if value == 0.0 then some value
    else if 0 ≤ exponent then none
    else scale (value / Float.ofScientific 1 false 308) (exponent + 308) steps

/-- A number with its sign. -/
def signed (negative : Bool) (x : Float) : Json :=
  .float (if negative then -x else x)

/-- The bound of an exponent, with its sign a 32-bit word. -/
def exponentBound : Nat := UInt32.size / 2

/-- The floating-point value of digits and a written exponent, which is cut to 32 bits. -/
def floatValue (l : Literal) (significand : Nat) (place : Int) : Json :=
  let result (exponent : Int) : Json :=
    match scale (UInt64.ofNat significand).toFloat exponent 5 with
    | some x => signed l.negative x
    | none => .unreadable
  match l.exponent with
  | none => result place
  | some (below, digits) =>
    match Text.natBelow? exponentBound digits with
    | some e =>
      let exponent := if below then place - e else place + e
      result (max (-(exponentBound : Int)) (min (exponentBound - 1) exponent))
    | none =>
      if significand ≠ 0 && !below then .unreadable else signed l.negative 0.0

/-- The value of a number. -/
def value (l : Literal) : Json :=
  let (significand, left) := absorb 0 l.whole
  if l.isWhole && left.isEmpty then
    if !l.negative then .int significand
    else if 0 < significand ∧ significand ≤ wordBound / 2 then .int (-(significand : Int))
    else signed true (UInt64.ofNat significand).toFloat
  else
    let (significand, unread) := absorb significand l.fraction
    let read := l.fraction.length - unread.length
    floatValue l significand ((left.length : Int) - read)

end Literal

end TextRepair.Json
