import TextRepair.Decimal.Shortest

/-!
# Decimal notations

Three ways of writing a number: `plain` for messages, always positional, where the decimal farther
from zero wins a tie; `data` for stored values, which keeps a point and changes to an exponent for
very large and very small numbers; `fixed` for summaries, with a given number of places, a half going
to the even neighbour.
-/

namespace TextRepair.Decimal

/-- The decimal digits of a number. -/
def digitsOf (n : Nat) : List Char :=
  Nat.toDigits 10 n

/-- `count` zeros. -/
def zeros (count : Nat) : List Char :=
  List.replicate count '0'

/-- The digits of `d` with a point where it belongs, and no point if it is a whole number. -/
def positional (d : Scientific) : List Char :=
  let digits := digitsOf d.digits
  let place : Int := digits.length + d.exponent
  if 0 ≤ d.exponent then digits ++ zeros d.exponent.toNat
  else if 0 < place then digits.take place.toNat ++ '.' :: digits.drop place.toNat
  else '0' :: '.' :: zeros (-place).toNat ++ digits

/-- The notation of stored values: a point or an exponent is always there. Positional notation is
used from a hundred-thousandth up to, but not including, ten to the sixteenth; an exponent has a sign
always. -/
def withPoint (d : Scientific) : List Char :=
  let digits := digitsOf d.digits
  let place : Int := digits.length + d.exponent
  if d.digits = 0 then "0.0".toList
  else if 0 ≤ d.exponent ∧ place ≤ 16 then positional d ++ ['.', '0']
  else if -5 < place ∧ place ≤ 16 then positional d
  else
    let point := if digits.length = 1 then digits else digits.take 1 ++ '.' :: digits.drop 1
    let exponent := place - 1
    let sign := if exponent < 0 then '-' else '+'
    point ++ 'e' :: sign :: digitsOf exponent.natAbs

/-- A minus sign for a number with the sign bit. -/
def signOf (x : Float) : List Char :=
  if isNegative x then ['-'] else []

/-- A number as it stands in a message: the fewest digits that read back, never an exponent. -/
def plain (x : Float) : String :=
  match kindOf x with
  | .nan => "NaN"
  | .infinite => String.ofList (signOf x ++ "inf".toList)
  | .finite s => String.ofList (signOf x ++ positional (shortest .away s))

/-- A number as it stands in stored data; what is not finite is written as nothing. -/
def data (x : Float) : String :=
  match kindOf x with
  | .nan | .infinite => "null"
  | .finite s => String.ofList (signOf x ++ withPoint (shortest .toEven s))

/-- The whole number nearest to `num / den`, the even one of two. -/
def roundDiv (num den : Nat) : Nat :=
  let low := num / den
  let rest := num % den
  if 2 * rest < den then low
  else if den < 2 * rest then low + 1
  else low + low % 2

/-- A number with `places` digits after the point. -/
def fixed (places : Nat) (x : Float) : String :=
  match kindOf x with
  | .nan => "NaN"
  | .infinite => String.ofList (signOf x ++ "inf".toList)
  | .finite s =>
    let units := roundDiv (s.mantissa * twoTo s.exponent.toNat * tenTo places)
      (twoTo (-s.exponent).toNat)
    let digits := digitsOf units
    let padded := zeros (places + 1 - digits.length) ++ digits
    let whole := padded.length - places
    let point := if places = 0 then [] else '.' :: padded.drop whole
    String.ofList (signOf x ++ padded.take whole ++ point)

end TextRepair.Decimal
