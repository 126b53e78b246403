import TextRepair.Decimal.Nearest
import TextRepair.Decimal.Notation
import TextRepair.Text.CharClass

/-!
# Real numbers in commands

Commands read real numbers in decimal or hexadecimal notation and print them with a fixed number of
places, with an exponent, with the shorter of both, or in hexadecimal notation.

* `Real.read?` : a number at the start of a text.
* `Real.write` : a number in one of the notations.
-/

namespace TextRepair.Shell.Real

open Decimal (Magnitude)

/-! ## Reading -/

/-- A number that has been read, whether it is out of range, and what follows it. -/
structure Front where
  value : Float
  isOutOfRange : Bool
  rest : List Char

/-- The value of a hexadecimal digit. -/
def digitValue (c : Char) : Nat :=
  if c.isDigit then c.toNat - '0'.toNat else c.toLower.toNat - 'a'.toNat + 10

/-- Whether a character is a hexadecimal digit. -/
def isHexDigit (c : Char) : Bool :=
  c.isDigit || ('a' ≤ c.toLower && c.toLower ≤ 'f')

/-- Digits and digits after a point, and what follows; none if there is no digit. -/
def digits? (isDigit : Char → Bool) (cs : List Char) : Option (List Char × List Char × List Char) :=
  let whole := cs.takeWhile isDigit
  let rest := cs.dropWhile isDigit
  let (fraction, rest) : List Char × List Char :=
    match rest with
    | '.' :: after =>
      if whole.isEmpty && !after.head?.any isDigit then ([], rest)
      else (after.takeWhile isDigit, after.dropWhile isDigit)
    | _ => ([], rest)
  if whole.isEmpty && fraction.isEmpty then none else some (whole, fraction, rest)

/-- An exponent after its mark, and what follows; 0 if there is none. -/
def exponent (mark : Char) (cs : List Char) : Int × List Char :=
  let read (sign : Int) (ds : List Char) : Int × List Char :=
    match Text.natOfDigits? (ds.takeWhile Char.isDigit) with
    | some n => (sign * n, ds.dropWhile Char.isDigit)
    | none => (0, cs)
  match cs with
  | c :: rest =>
    if c.toLower = mark then
      match rest with
      | '-' :: ds => read (-1) ds
      | '+' :: ds => read 1 ds
      | ds => read 1 ds
    else (0, cs)
  | [] => (0, cs)

/-- The number with the given digits in a base. -/
def natOf (base : Nat) (ds : List Char) : Nat :=
  ds.foldl (fun n c => base * n + digitValue c) 0

/-- Whether a number that is not 0 has been lost at an end of the range. -/
def isLost (mantissa : Nat) (x : Float) : Bool :=
  mantissa ≠ 0 && (x.isInf || x < 2.2250738585072014e-308)

/-- A number without a sign at the start of a text. -/
def unsigned? (cs : List Char) : Option Front :=
  let lower := cs.map Char.toLower
  let hexadecimal : Option Front :=
    match lower with
    | '0' :: 'x' :: _ =>
      (digits? isHexDigit (cs.drop 2)).map fun (whole, fraction, rest) =>
        let (e, rest) := exponent 'p' rest
        let mantissa := natOf 16 (whole ++ fraction)
        let value := (Float.ofNat mantissa).scaleB (e - 4 * (fraction.length : Int))
        ⟨value, isLost mantissa value, rest⟩
    | _ => none
  let decimal : Option Front :=
    (digits? Char.isDigit cs).map fun (whole, fraction, rest) =>
      let (e, rest) := exponent 'e' rest
      let mantissa := natOf 10 (whole ++ fraction)
      let value := Decimal.nearest mantissa (e - (fraction.length : Int))
      ⟨value, isLost mantissa value, rest⟩
  let word (text : String) : Bool := text.toList.isPrefixOf lower
  if word "infinity" then some ⟨1.0 / 0.0, false, cs.drop 8⟩
  else if word "inf" then some ⟨1.0 / 0.0, false, cs.drop 3⟩
  else if word "nan" then some ⟨0.0 / 0.0, false, cs.drop 3⟩
  else hexadecimal <|> decimal

/-- A number at the start of a text, after any blanks. -/
def read? (cs : List Char) : Option Front :=
  match cs.dropWhile Char.isWhitespace with
  | '-' :: rest => (unsigned? rest).map fun f => { f with value := -f.value }
  | '+' :: rest => unsigned? rest
  | rest => unsigned? rest

/-! ## Writing -/

/-- The notations. -/
inductive Notation where
  | fixed
  | scientific
  | shorter
  | hexadecimal
  deriving DecidableEq, Repr

/-- The number rounded to `count` digits, as a whole number, and the power of ten of the first digit. -/
def rounded (count : Nat) (s : Magnitude) : Nat × Int :=
  if s.mantissa = 0 then (0, 0)
  else
    let place := Decimal.firstPlace s - 1
    let shift := (count : Int) - 1 - place
    let units := Decimal.roundDiv
      (s.mantissa * Decimal.twoTo s.exponent.toNat * Decimal.tenTo shift.toNat)
      (Decimal.twoTo (-s.exponent).toNat * Decimal.tenTo (-shift).toNat)
    if units = Decimal.tenTo count then (units / 10, place + 1) else (units, place)

/-- Digits with zeros in front, `width` at least. -/
def padded (width n : Nat) : List Char :=
  let ds := Decimal.digitsOf n
  Decimal.zeros (width - ds.length) ++ ds

/-- Whole and fractional digits with a point between them; `keepsPoint` also without a fraction. -/
def joined (keepsPoint : Bool) (whole fraction : List Char) : List Char :=
  whole ++ if fraction.isEmpty && !keepsPoint then [] else '.' :: fraction

/-- A power of ten or of two after its mark. -/
def power (mark : Char) (width : Nat) (e : Int) : List Char :=
  mark :: (if e < 0 then '-' else '+') :: padded width e.natAbs

/-- A number with a fixed number of places. -/
def fixed (keepsPoint : Bool) (places : Nat) (s : Magnitude) : List Char :=
  let units := Decimal.roundDiv
    (s.mantissa * Decimal.twoTo s.exponent.toNat * Decimal.tenTo places)
    (Decimal.twoTo (-s.exponent).toNat)
  let ds := padded (places + 1) units
  joined keepsPoint (ds.take (ds.length - places)) (ds.drop (ds.length - places))

/-- Digits with an exponent, of which the first one stands in front of the point. -/
def withExponent (keepsPoint : Bool) (ds : List Char) (e : Int) : List Char :=
  joined keepsPoint (ds.take 1) (ds.drop 1) ++ power 'e' 2 e

/-- Digits without the zeros at their end. -/
def withoutZeros (ds : List Char) : List Char :=
  (ds.reverse.dropWhile (· = '0')).reverse

/-- A number of `count` digits in the shorter notation, with zeros at the end of its fraction only if
`keepsPoint`. -/
def shorter (keepsPoint : Bool) (count : Nat) (s : Magnitude) : List Char :=
  let count := max count 1
  let (units, e) := rounded count s
  let ds := padded count units
  let cut (fraction : List Char) : List Char :=
    if keepsPoint then fraction else withoutZeros fraction
  if -4 ≤ e ∧ e < count then
    if 0 ≤ e then joined keepsPoint (ds.take (e.toNat + 1)) (cut (ds.drop (e.toNat + 1)))
    else joined keepsPoint ['0'] (cut (Decimal.zeros (-e - 1).toNat ++ ds))
  else joined keepsPoint (ds.take 1) (cut (ds.drop 1)) ++ power 'e' 2 e

/-- The number of hexadecimal digits after the point of a mantissa. -/
def hexPlaces : Nat := 13

/-- A number in hexadecimal notation, without zeros at its end if no places are asked for. -/
def hexadecimal (keepsPoint : Bool) (places? : Option Nat) (s : Magnitude) : List Char :=
  let places := min (places?.getD hexPlaces) hexPlaces
  let units := Decimal.roundDiv s.mantissa (Nat.pow 16 (hexPlaces - places))
  let ds := Nat.toDigits 16 units
  let ds := Decimal.zeros (places + 1 - ds.length) ++ ds
  let fraction := ds.drop (ds.length - places)
  let fraction :=
    match places? with
    | some n => fraction ++ Decimal.zeros (n - hexPlaces)
    | none => withoutZeros fraction
  let e : Int := if s.mantissa = 0 then 0 else s.exponent + 4 * (hexPlaces : Int)
  ['0', 'x'] ++ joined keepsPoint (ds.take (ds.length - places)) fraction ++ power 'p' 1 e

/-- The digits and marks of a number without its sign; `places` is the precision, if one is given, and
`keepsPoint` keeps a point that has nothing after it. -/
def write (n : Notation) (keepsPoint : Bool) (places : Option Nat) (x : Float) : List Char :=
  match Decimal.kindOf x with
  | .nan => "nan".toList
  | .infinite => "inf".toList
  | .finite s =>
    match n with
    | .fixed => fixed keepsPoint (places.getD 6) s
    | .scientific =>
      let count := places.getD 6 + 1
      let (units, e) := rounded count s
      withExponent keepsPoint (padded count units) e
    | .shorter => shorter keepsPoint (places.getD 6) s
    | .hexadecimal => hexadecimal keepsPoint places s

end TextRepair.Shell.Real
