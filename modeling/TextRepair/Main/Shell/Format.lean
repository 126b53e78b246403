import TextRepair.Main.Shell.Program
import TextRepair.Main.Shell.Real

/-!
# Printing by a format

The commands that print their arguments, with escapes after backslashes and conversions after percent
signs.
-/

namespace TextRepair.Shell.Format

/-- An octal number of at most `most` digits and what follows it. -/
def octal (most value : Nat) (cs : List Char) : Nat × List Char :=
  match most, cs with
  | most + 1, c :: rest =>
    if '0' ≤ c ∧ c ≤ '7' then octal most (8 * value + (c.toNat - '0'.toNat)) rest
    else (value, cs)
  | _, _ => (value, cs)

/-- The byte of an escape letter. -/
def escapeByte? : Char → Option Char
  | 'a' => some '\x07'
  | 'b' => some '\x08'
  | 't' => some '\t'
  | 'n' => some '\n'
  | 'v' => some '\x0b'
  | 'f' => some '\x0c'
  | 'r' => some '\r'
  | 'e' => some '\x1b'
  | '\\' => some '\\'
  | _ => none

/-- What stands after a backslash: its bytes, what follows, and whether all output ends here. An octal
number in an argument may start with one more zero. -/
def escapeAt (isArgument : Bool) (cs : List Char) : List Char × List Char × Bool :=
  match cs with
  | [] => (['\\'], [], false)
  | c :: rest =>
    if c = 'c' && isArgument then ([], [], true)
    else if '0' ≤ c ∧ c ≤ '7' then
      let (value, rest) := octal 3 0 (if c = '0' && isArgument then rest else cs)
      ([Char.ofNat (value % 256)], rest, false)
    else
      match escapeByte? c with
      | some b => ([b], rest, false)
      | none => (['\\'], cs, false)

/-- An argument with its escapes replaced, and whether all output ends in it. -/
def unescape : (fuel : Nat) → List Char → List Char × Bool
  | 0, _ => ([], false)
  | _, [] => ([], false)
  | fuel + 1, c :: cs =>
    let (bytes, rest, ends) := if c = '\\' then escapeAt true cs else ([c], cs, false)
    if ends then (bytes, true)
    else
      let (more, ends) := unescape fuel rest
      (bytes ++ more, ends)

/-- Arguments with spaces between them, with escapes if `escapes` says so, and a line end if `ended`. -/
def joined (escapes ended : Bool) (args : List String) : String :=
  let text := (" ".intercalate args).toList
  let (bytes, ends) : List Char × Bool :=
    if escapes then unescape (text.length + 1) text else (text, false)
  String.ofList (bytes ++ if ended && !ends then ['\n'] else [])

/-- A conversion: its flags, the width of its field, its precision and its kind. -/
structure Conversion where
  flags : List Char
  width : Nat
  precision : Option Nat
  kind : Char

namespace Conversion

/-- Whether a conversion has a flag. -/
def has (v : Conversion) (flag : Char) : Bool :=
  v.flags.contains flag

/-- A text in the field of a conversion; with `zeros` they go between a sign and the digits of a
number. -/
def place (v : Conversion) (zeros : Bool) (sign digits : List Char) : List Char :=
  let gap := v.width - (sign ++ digits).length
  let fill (c : Char) : List Char := List.replicate gap c
  if v.has '-' then sign ++ digits ++ fill ' '
  else if v.has '0' && zeros then sign ++ fill '0' ++ digits
  else fill ' ' ++ sign ++ digits

/-- The sign of a number. -/
def sign (v : Conversion) (isNegative : Bool) : List Char :=
  if isNegative then ['-'] else if v.has '+' then ['+'] else if v.has ' ' then [' '] else []

/-- The digits of a number, filled up with zeros to the precision. -/
def digits (v : Conversion) (base n : Nat) : List Char :=
  if n = 0 && v.precision = some 0 then []
  else
    let ds := Nat.toDigits base n
    List.replicate (v.precision.getD 1 - ds.length) '0' ++ ds

/-- A whole number in its field. -/
def number (v : Conversion) (n : Int) : List Char :=
  let unsigned := (n % (UInt64.size : Int)).toNat
  let put (sign digits : List Char) : List Char := v.place v.precision.isNone sign digits
  let alternate (start : List Char) : List Char := if v.has '#' && n ≠ 0 then start else []
  if v.kind = 'x' then put (alternate ['0', 'x']) (v.digits 16 unsigned)
  else if v.kind = 'X' then put (alternate ['0', 'X']) ((v.digits 16 unsigned).map Char.toUpper)
  else if v.kind = 'o' then put [] (alternate ['0'] ++ v.digits 8 unsigned)
  else if v.kind = 'u' then put [] (v.digits 10 unsigned)
  else put (v.sign (n < 0)) (v.digits 10 n.natAbs)

/-- The notation of a real number. -/
def notation? (v : Conversion) : Option Real.Notation :=
  if v.kind.toLower = 'f' then some .fixed
  else if v.kind.toLower = 'e' then some .scientific
  else if v.kind.toLower = 'g' then some .shorter
  else if v.kind.toLower = 'a' then some .hexadecimal
  else none

/-- A real number in its field. -/
def real (v : Conversion) (n : Real.Notation) (x : Float) : List Char :=
  let isFinite := x.isFinite
  let ds := Real.write n (v.has '#') v.precision x
  let sign := v.sign (Decimal.isNegative x)
  let isHexadecimal := n = .hexadecimal && isFinite
  let (sign, ds) := if isHexadecimal then (sign ++ ds.take 2, ds.drop 2) else (sign, ds)
  let text := v.place isFinite sign ds
  if v.kind.isUpper then text.map Char.toUpper else text

end Conversion

/-- Digits of a base. -/
def isDigitIn (base : Nat) (c : Char) : Bool :=
  if base = 16 then c.isDigit || ('a' ≤ c.toLower && c.toLower ≤ 'f')
  else c.isDigit && c.toNat - '0'.toNat < base

/-- The byte after a quote that an argument starts with. -/
def quoted? (arg : String) : Option Nat :=
  match arg.toList with
  | c :: cs => if c = '"' || c = Char.ofNat 39 then some (cs.headD '\x00').toNat else none
  | [] => none

/-- The whole number in an argument, and what is wrong with it. With `signed` it has 63 bits and a sign,
else 64 bits, of which a minus takes the complement. -/
def numberOf (signed : Bool) (arg : String) : Int × Option String :=
  let fault (reason : String) : Option String := some (arg ++ ": " ++ reason)
  let read (negative : Bool) (base : Nat) (cs : List Char) : Int × Option String :=
    let ds := cs.takeWhile (isDigitIn base)
    let n := Real.natOf base ds
    let most : Nat := if signed then UInt64.size / 2 else UInt64.size
    if ds.isEmpty then (0, if arg.isEmpty then none else fault "expected numeric value")
    else if most ≤ n && !(signed && negative && n = most) then
      (if signed && negative then -(most : Int) else (most : Int) - 1,
        fault "Numerical result out of range")
    else
      (if negative then -(n : Int) else (n : Int),
        if (cs.dropWhile (isDigitIn base)).isEmpty then none else fault "not completely converted")
  let unsigned (negative : Bool) (cs : List Char) : Int × Option String :=
    match cs with
    | '0' :: 'x' :: c :: rest | '0' :: 'X' :: c :: rest =>
      if isDigitIn 16 c then read negative 16 (c :: rest) else read negative 8 cs
    | '0' :: _ => read negative 8 cs
    | _ => read negative 10 cs
  match quoted? arg with
  | some n => (n, none)
  | none =>
    match arg.toList.dropWhile Char.isWhitespace with
    | '-' :: cs => unsigned true cs
    | '+' :: cs => unsigned false cs
    | cs => unsigned false cs

/-- The real number in an argument, and what is wrong with it. -/
def realOf (arg : String) : Float × Option String :=
  let fault (reason : String) : Option String := some (arg ++ ": " ++ reason)
  match quoted? arg with
  | some n => (Float.ofNat n, none)
  | none =>
    match Real.read? arg.toList with
    | none => (0.0, if arg.isEmpty then none else fault "expected numeric value")
    | some front =>
      (front.value,
        if front.isOutOfRange then fault "Numerical result out of range"
        else if front.rest.isEmpty then none
        else fault "not completely converted")

/-- What a pass through a format leaves: the bytes, what was wrong with arguments, the arguments left,
whether one was asked for, and what ends all output, with a message unless it was asked for. -/
structure Printed where
  bytes : List Char
  faults : List String
  args : List String
  hasAsked : Bool
  ending : Option (Option String)

namespace Printed

/-- More bytes at the end. -/
def append (d : Printed) (bytes : List Char) : Printed :=
  { d with bytes := d.bytes ++ bytes }

/-- Bytes at the end that come from an argument with something wrong. -/
def appendWith (d : Printed) (fault : Option String) (bytes : List Char) : Printed :=
  { d.append bytes with faults := d.faults ++ fault.toList }

/-- The next argument, empty if there is none. -/
def take (d : Printed) : String × Printed :=
  (d.args.headD "", { d with args := d.args.drop 1, hasAsked := true })

/-- The output ends, with a message if something is wrong. -/
def finish (d : Printed) (reason : Option String) : Printed :=
  { d with ending := some reason }

/-- Prints one conversion of the next argument; none if there is no such conversion. -/
def convert? (d : Printed) (v : Conversion) : Option Printed :=
  let (arg, d) := d.take
  if v.kind ∈ ['d', 'i', 'u', 'o', 'x', 'X'] then
    let (n, fault) := numberOf (v.kind = 'd' || v.kind = 'i') arg
    some (d.appendWith fault (v.number n))
  else if v.kind = 's' then
    let cs := match v.precision with | some n => arg.toList.take n | none => arg.toList
    some (d.append (v.place false [] cs))
  else if v.kind = 'c' then some (d.append (v.place false [] [arg.toList.headD '\x00']))
  else if v.kind = 'b' then
    let (bytes, ends) := unescape (arg.length + 1) arg.toList
    let bytes := match v.precision with | some n => bytes.take n | none => bytes
    let d := d.append (v.place false [] bytes)
    some (if ends then d.finish none else d)
  else
    v.notation?.map fun n =>
      let (x, fault) := realOf arg
      d.appendWith fault (v.real n x)

end Printed

/-- A number in a conversion, or the next argument for a star. -/
def count (d : Printed) : List Char → Option Int × Printed × List Char
  | '*' :: rest =>
    let (arg, d) := d.take
    let (n, fault) := numberOf true arg
    (some n, d.appendWith fault [], rest)
  | cs =>
    ((Text.natOfDigits? (cs.takeWhile Char.isDigit)).map fun n => (n : Int), d,
      cs.dropWhile Char.isDigit)

/-- One pass through a format. -/
def pass : (fuel : Nat) → Printed → List Char → Printed
  | 0, d, _ | _, d, [] => d
  | fuel + 1, d, c :: cs =>
    if c = '\\' then
      let (bytes, rest, _) := escapeAt false cs
      pass fuel (d.append bytes) rest
    else if c ≠ '%' then pass fuel (d.append [c]) cs
    else if cs.head? = some '%' then pass fuel (d.append ['%']) (cs.drop 1)
    else
      let isFlag (c : Char) : Bool := c ∈ ['-', '0', '+', ' ', '#']
      let (width, d, rest) := count d (cs.dropWhile isFlag)
      let (precision, d, rest) : Option Int × Printed × List Char :=
        match rest with
        | '.' :: rest =>
          let (n, d, rest) := count d rest
          (some (n.getD 0), d, rest)
        | _ => (none, d, rest)
      match rest with
      | [] => d.finish (some "missing format character")
      | kind :: rest =>
        let flags := cs.takeWhile isFlag ++ (if width.any (· < 0) then ['-'] else [])
        let precision := (precision.filter (0 ≤ ·)).map Int.toNat
        match d.convert? ⟨flags, (width.getD 0).natAbs, precision, kind⟩ with
        | some d => if d.ending.isSome then d else pass fuel d rest
        | none =>
          let directive := String.ofList (cs.take (cs.length - rest.length))
          d.finish (some s!"%{directive}: invalid directive")

/-- Passes through a format until no argument is left. -/
def passes : (fuel : Nat) → Printed → List Char → Printed
  | 0, d, _ => d
  | fuel + 1, d, format =>
    let d := pass (format.length + 1) { d with hasAsked := false } format
    if d.args.isEmpty || !d.hasAsked || d.ending.isSome then d else passes fuel d format

end TextRepair.Shell.Format

namespace TextRepair.Shell.Program

/-- Prints its arguments with spaces between them and with escapes. -/
def echo (args : List String) : Answered :=
  match args with
  | "-n" :: rest => Answered.ofOutput (Format.joined true false rest)
  | _ => Answered.ofOutput (Format.joined true true args)

/-- Prints its arguments with spaces between them, with escapes if an option asks for them; `escapes`
and `ended` are what options have said so far. -/
def echoPlain (escapes ended : Bool) : List String → Answered
  | arg :: rest =>
    let letters := arg.toList.drop 1
    if arg.startsWith "-" && !letters.isEmpty && letters.all fun c => c ∈ ['n', 'e', 'E'] then
      let last := (letters.filter (· ≠ 'n')).getLast?
      echoPlain (match last with | some c => c = 'e' | none => escapes)
        (ended && !letters.contains 'n') rest
    else Answered.ofOutput (Format.joined escapes ended (arg :: rest))
  | [] => Answered.ofOutput (Format.joined escapes ended [])

/-- Prints arguments by a format. -/
def printf (s : Setting) (args : List String) : Answered :=
  let refused (reason : String) : Answered := failing 2 (s.speaker ++ "printf: " ++ reason)
  match if args.head? = some "--" then args.drop 1 else args with
  | [] => refused "usage: printf format [arg ...]"
  | format :: rest =>
    if format.startsWith "-" && 1 < format.length && args.head? ≠ some "--" then
      refused ("Illegal option " ++ String.ofList (format.toList.take 2))
    else
      let d := Format.passes (rest.length + 1) ⟨[], [], rest, false, none⟩ format.toList
      let messages := d.faults ++ (d.ending.bind id).toList
      let said := messages.map fun m => failing 1 (s.speaker ++ "printf: " ++ m)
      let printed := Answered.ofOutput (String.ofList d.bytes)
      { Answered.all (said ++ [printed]) with
        status := if (d.ending.bind id).isSome then 2 else if d.faults.isEmpty then 0 else 1 }

end TextRepair.Shell.Program
