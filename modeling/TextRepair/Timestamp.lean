import TextRepair.Text.CharClass
import TextRepair.Decimal.Notation

/-!
# Points in time

A time is counted in seconds from the start of 1970 in universal time, with nanoseconds. In a leap
second the nanoseconds go on past a thousand million. Times are written in universal time with the
fewest of 0, 3, 6 or 9 places that are exact, and read with any offset.
-/

namespace TextRepair

/-- A point in time. -/
structure Timestamp where
  seconds : Int
  /-- Below a thousand million, or below two thousand million in a leap second. -/
  nanos : Nat
  deriving DecidableEq, Repr, Inhabited

namespace Timestamp

/-- The days from 1970-01-01 to a date of the Gregorian calendar. Years are counted from March, so
that the leap day ends them. -/
def daysOf (year : Int) (month day : Nat) : Int :=
  let y := if month ≤ 2 then year - 1 else year
  let era := Int.fdiv y 400
  let yearOfEra := y - era * 400
  let dayOfYear : Int := (153 * ((month + 9) % 12) + 2) / 5 + day - 1
  let dayOfEra := yearOfEra * 365 + yearOfEra / 4 - yearOfEra / 100 + dayOfYear
  era * 146097 + dayOfEra - 719468

/-- The date that lies `days` after 1970-01-01. -/
def dateOf (days : Int) : Int × Nat × Nat :=
  let z := days + 719468
  let era := Int.fdiv z 146097
  let dayOfEra := (z - era * 146097).toNat
  let yearOfEra := (dayOfEra - dayOfEra / 1460 + dayOfEra / 36524 - dayOfEra / 146096) / 365
  let dayOfYear := dayOfEra - (365 * yearOfEra + yearOfEra / 4 - yearOfEra / 100)
  let shifted := (5 * dayOfYear + 2) / 153
  let day := dayOfYear - (153 * shifted + 2) / 5 + 1
  let month := if shifted < 10 then shifted + 3 else shifted - 9
  let year := (yearOfEra : Int) + era * 400
  (if month ≤ 2 then year + 1 else year, month, day)

/-- Whether a year has a leap day. -/
def isLeap (year : Int) : Bool :=
  Int.fmod year 4 == 0 && (Int.fmod year 100 != 0 || Int.fmod year 400 == 0)

/-- The number of days of a month. -/
def monthLength (year : Int) (month : Nat) : Nat :=
  match month with
  | 2 => if isLeap year then 29 else 28
  | 4 | 6 | 9 | 11 => 30
  | _ => 31

/-- A number with at least `width` digits. -/
def padded (width n : Nat) : List Char :=
  let digits := Decimal.digitsOf n
  Decimal.zeros (width - digits.length) ++ digits

/-- A year: four digits, with a sign outside the years 0 to 9999. -/
def yearText (year : Int) : List Char :=
  if 0 ≤ year ∧ year ≤ 9999 then padded 4 year.toNat
  else (if year < 0 then '-' else '+') :: padded 4 year.natAbs

/-- The fraction of a second. -/
def fractionText (nanos : Nat) : List Char :=
  if nanos = 0 then []
  else if nanos % 1000000 = 0 then '.' :: padded 3 (nanos / 1000000)
  else if nanos % 1000 = 0 then '.' :: padded 6 (nanos / 1000)
  else '.' :: padded 9 nanos

/-- A time in universal time. -/
def toText (t : Timestamp) : String :=
  let days := Int.fdiv t.seconds 86400
  let ofDay := (t.seconds - days * 86400).toNat
  let (year, month, day) := dateOf days
  let leap := if 1000000000 ≤ t.nanos then 1 else 0
  String.ofList (yearText year ++ '-' :: padded 2 month ++ '-' :: padded 2 day ++
    'T' :: padded 2 (ofDay / 3600) ++ ':' :: padded 2 (ofDay / 60 % 60) ++
    ':' :: padded 2 (ofDay % 60 + leap) ++ fractionText (t.nanos % 1000000000) ++ ['Z'])

/-- The characters after any blanks. -/
def skipBlanks (cs : List Char) : List Char :=
  cs.dropWhile Text.isBlank

/-- A number of one to `width` digits. -/
def digits? (width : Nat) (cs : List Char) : Option (Nat × List Char) :=
  let digits := (cs.take width).takeWhile Char.isDigit
  (Text.natOfDigits? digits).map fun n => (n, cs.drop digits.length)

/-- A number of one to `width` digits after any blanks. -/
def number? (width : Nat) (cs : List Char) : Option (Nat × List Char) :=
  digits? width (skipBlanks cs)

/-- A year of at most four digits, or of any length right after a sign; any blanks stand before. -/
def year? (cs : List Char) : Option (Int × List Char) :=
  let cs := skipBlanks cs
  match cs with
  | '-' :: rest => (digits? rest.length rest).map fun (n, rest) => (-(n : Int), rest)
  | '+' :: rest => (digits? rest.length rest).map fun (n, rest) => ((n : Int), rest)
  | _ => (digits? 4 cs).map fun (n, rest) => ((n : Int), rest)

/-- A given character, after any blanks. -/
def mark? (c : Char) (cs : List Char) : Option (List Char) :=
  match skipBlanks cs with
  | d :: rest => if d = c then some rest else none
  | [] => none

/-- The nanoseconds of a fraction, of which nine digits count; 0 without a point. -/
def fraction? (cs : List Char) : Option (Nat × List Char) :=
  match cs with
  | '.' :: rest =>
    let digits := rest.takeWhile Char.isDigit
    let used := digits.take 9
    (Text.natOfDigits? used).map fun n => (n * Nat.pow 10 (9 - used.length), rest.drop digits.length)
  | _ => some (0, cs)

/-- Two digits. -/
def twoDigits? (cs : List Char) : Option Nat :=
  match cs with
  | a :: b :: _ => Text.natOfDigits? [a, b]
  | _ => none

/-- The minutes of an offset. -/
def offsetMinutes? (cs : List Char) : Option (Nat × List Char) :=
  (twoDigits? cs).bind fun n => if n < 60 then some (n, cs.drop 2) else none

/-- The offset from universal time in seconds: a zone letter or name, or a sign, two digits for the
hours, and two for the minutes after any colons and blanks. -/
def offset? (cs : List Char) : Option (Int × List Char) :=
  let cs := skipBlanks cs
  if (cs.take 3).map Char.toUpper = ['U', 'T', 'C'] then some (0, cs.drop 3)
  else
    match cs with
    | [] => none
    | c :: rest =>
      if c = 'Z' ∨ c = 'z' then some (0, rest)
      else if c = '+' ∨ c = '-' ∨ c = '\u2212' then do
        let hours ← twoDigits? rest
        let rest := (rest.drop 2).dropWhile fun c => c = ':' || Text.isBlank c
        let (minutes, rest) ← offsetMinutes? rest
        let seconds : Int := hours * 3600 + minutes * 60
        return (if c = '+' then seconds else -seconds, rest)
      else none

/-- The years that can be written. -/
def isYear (year : Int) : Bool :=
  -262143 ≤ year && year ≤ 262142

/-- The year of a time in seconds. -/
def yearOf (seconds : Int) : Int :=
  (dateOf (Int.fdiv seconds 86400)).1

/-- Reads a time: date, separator, time of day, fraction and offset. Blanks may stand between the
parts, and numbers may have fewer digits than usual. The year has to be one that can be written both
as it stands and in universal time. -/
def ofText? (text : String) : Option Timestamp := do
  let (year, cs) ← year? text.toList
  let cs ← mark? '-' cs
  let (month, cs) ← number? 2 cs
  let cs ← mark? '-' cs
  let (day, cs) ← number? 2 cs
  let cs ← match cs with
    | c :: rest => if c = 'T' ∨ c = 't' ∨ c = ' ' then some rest else none
    | [] => none
  let (hour, cs) ← number? 2 cs
  let cs ← mark? ':' cs
  let (minute, cs) ← number? 2 cs
  let cs ← mark? ':' cs
  let (second, cs) ← number? 2 cs
  let (nanos, cs) ← fraction? cs
  let (offset, cs) ← offset? cs
  guard ((skipBlanks cs).isEmpty && isYear year && 1 ≤ month && month ≤ 12 && 1 ≤ day &&
    day ≤ monthLength year month && hour < 24 && minute < 60 && second ≤ 60 &&
    offset.natAbs < 86400)
  let leap := second = 60
  let ofDay : Int := hour * 3600 + minute * 60 + (if leap then 59 else second)
  let seconds := daysOf year month day * 86400 + ofDay - offset
  guard (isYear (yearOf seconds))
  return {
    seconds
    nanos := if leap then nanos + 1000000000 else nanos }

end Timestamp

end TextRepair
