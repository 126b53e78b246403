import TextRepair.Decimal.Nearest
import TextRepair.Json
import TextRepair.Timestamp

/-!
# Words in TOML texts

Truth values, numbers and dates are words without blanks. `Word.value?` reads one as a whole. A whole
number has 64 bits with a sign, and underscores may stand between its digits.
-/

namespace TextRepair.Toml.Word

/-- Digits without the single underscores between them. -/
def digits? (isDigit : Char → Bool) : List Char → Option (List Char)
  | [] => none
  | [c] => if isDigit c then some [c] else none
  | c :: '_' :: rest => if isDigit c then (digits? isDigit rest).map (c :: ·) else none
  | c :: rest => if isDigit c then (digits? isDigit rest).map (c :: ·) else none

/-- A word without its sign, and whether that was a minus. -/
def splitSign : List Char → Bool × List Char
  | '-' :: rest => (true, rest)
  | '+' :: rest => (false, rest)
  | cs => (false, cs)

/-- The digits of a whole part: a single zero, or no zero in front. -/
def whole? (cs : List Char) : Option (List Char) :=
  (digits? Char.isDigit cs).filter fun digits => digits.length = 1 || digits.head? ≠ some '0'

/-- The value of a digit of any base up to sixteen. -/
def digitValue (c : Char) : Nat :=
  if c.isDigit then c.toNat - '0'.toNat else c.toLower.toNat - 'a'.toNat + 10

/-- The number with the given digits. -/
def valueOf (base : Nat) (digits : List Char) : Nat :=
  digits.foldl (fun n c => base * n + digitValue c) 0

/-- A whole number if it has at most 64 bits with its sign. -/
def bounded? (n : Int) : Option Json :=
  let bound : Nat := UInt64.size / 2
  if -(bound : Int) ≤ n ∧ n < bound then some (.int n) else none

/-- A number in a base whose digits are given, which has no sign. -/
def based? (base : Nat) (isDigit : Char → Bool) (cs : List Char) : Option Json :=
  (digits? isDigit cs).bind fun digits => bounded? (valueOf base digits)

def isHexDigit (c : Char) : Bool :=
  c.isDigit || ('a' ≤ c && c ≤ 'f') || ('A' ≤ c && c ≤ 'F')

def isOctalDigit (c : Char) : Bool :=
  '0' ≤ c && c ≤ '7'

def isBinaryDigit (c : Char) : Bool :=
  c = '0' || c = '1'

/-- A whole number. -/
def integer? : List Char → Option Json
  | '0' :: 'x' :: rest => based? 16 isHexDigit rest
  | '0' :: 'o' :: rest => based? 8 isOctalDigit rest
  | '0' :: 'b' :: rest => based? 2 isBinaryDigit rest
  | cs =>
    let (negative, cs) := splitSign cs
    (whole? cs).bind fun digits =>
      let n : Int := valueOf 10 digits
      bounded? (if negative then -n else n)

/-- The exponent of a number, with its mark. -/
def exponent? : List Char → Option Int
  | [] => some 0
  | mark :: rest =>
    if mark = 'e' ∨ mark = 'E' then
      let (negative, rest) := splitSign rest
      (digits? Char.isDigit rest).map fun digits =>
        let n : Int := valueOf 10 digits
        if negative then -n else n
    else none

/-- The digits of a fraction; none without a point. -/
def fraction? (cs : List Char) : Option (List Char × List Char) :=
  let inPart (c : Char) : Bool := c.isDigit || c = '_'
  match cs with
  | '.' :: rest => (digits? Char.isDigit (rest.takeWhile inPart)).map (·, rest.dropWhile inPart)
  | _ => some ([], cs)

/-- A number with a sign, which must not be beyond the range upwards. -/
def signed? (negative : Bool) (x : Float) : Option Json :=
  if negative then some (.float (-x)) else if x.isInf then none else some (.float x)

/-- A number with a fraction, an exponent or both, or one of the values that are no numbers. -/
def float? (cs : List Char) : Option Json := do
  let (negative, cs) := splitSign cs
  if cs = "inf".toList then return .float (if negative then -1.0 / 0.0 else 1.0 / 0.0)
  if cs = "nan".toList then return .float (0.0 / 0.0)
  let inPart (c : Char) : Bool := c.isDigit || c = '_'
  let whole ← whole? (cs.takeWhile inPart)
  let rest := cs.dropWhile inPart
  guard (!rest.isEmpty)
  let (fraction, rest) ← fraction? rest
  let exponent ← exponent? rest
  signed? negative (Decimal.nearest (valueOf 10 (whole ++ fraction)) (exponent - fraction.length))

/-- So many digits, as a number within bounds. -/
def field? (width low high : Nat) (cs : List Char) : Option (Nat × List Char) :=
  let digits := cs.take width
  if digits.length = width && digits.all Char.isDigit then
    let n := valueOf 10 digits
    if low ≤ n ∧ n ≤ high then some (n, cs.drop width) else none
  else none

/-- A given character. -/
def mark? (c : Char) : List Char → Option (List Char)
  | d :: rest => if d = c then some rest else none
  | [] => none

/-- What follows a date. -/
def date? (cs : List Char) : Option (List Char) := do
  let (year, cs) ← field? 4 0 9999 cs
  let (month, cs) ← field? 2 1 12 (← mark? '-' cs)
  let (_, cs) ← field? 2 1 (Timestamp.monthLength year month) (← mark? '-' cs)
  return cs

/-- What follows a fraction of a second. -/
def secondFraction (cs : List Char) : List Char :=
  match cs with
  | '.' :: c :: rest => if c.isDigit then rest.dropWhile Char.isDigit else cs
  | _ => cs

/-- What follows a time of day. -/
def time? (cs : List Char) : Option (List Char) := do
  let (_, cs) ← field? 2 0 23 cs
  let (_, cs) ← field? 2 0 59 (← mark? ':' cs)
  let (_, cs) ← field? 2 0 60 (← mark? ':' cs)
  return secondFraction cs

/-- What follows an offset, if there is one. -/
def offset? : List Char → Option (List Char)
  | [] => some []
  | c :: rest =>
    if c = 'Z' ∨ c = 'z' then some rest
    else if c = '+' ∨ c = '-' then do
      let (_, rest) ← field? 2 0 23 rest
      let (_, rest) ← field? 2 0 59 (← mark? ':' rest)
      return rest
    else none

/-- Whether the characters are a time of day with or without an offset. -/
def isZonedTime (cs : List Char) : Bool :=
  ((time? cs).bind offset?) == some []

/-- Whether the characters are a date. -/
def isDate (cs : List Char) : Bool :=
  date? cs == some []

/-- Whether the characters are a date, a time of day, or both with a mark between them. -/
def isDateTime (cs : List Char) : Bool :=
  time? cs == some [] ||
    match date? cs with
    | some [] => true
    | some (mark :: rest) => (mark = 'T' || mark = 't') && isZonedTime rest
    | none => false

/-- The value of a date or a time: an object whose only field is one that nobody asks for. -/
def dateTime (cs : List Char) : Json :=
  .object [("", .text (String.ofList cs))]

/-- The value of a word. -/
def value? (cs : List Char) : Option Json :=
  if cs = "true".toList then some (.bool true)
  else if cs = "false".toList then some (.bool false)
  else if isDateTime cs then some (dateTime cs)
  else (integer? cs) <|> (float? cs)

end TextRepair.Toml.Word
