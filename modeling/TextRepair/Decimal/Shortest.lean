/-!
# The fewest digits that read back

`kindOf` takes a number apart into an integer times a power of two. The decimals that read
back as the number fill an interval around it; `shortest` finds the shortest decimal in it, and of
those of one length the nearest. For each count of digits it looks at the two neighbours of the
number on that decimal grid, in exact integer arithmetic.
-/

namespace TextRepair.Decimal

/-- The size of a finite number: `mantissa * 2 ^ exponent`. -/
structure Magnitude where
  mantissa : Nat
  exponent : Int
  /-- The next smaller number is only half as far away as the next greater one. -/
  narrowBelow : Bool
  deriving Repr

/-- What a binary floating-point number is. -/
inductive Kind where
  | nan
  | infinite
  | finite (size : Magnitude)
  deriving Repr

/-- A power of two. -/
def twoTo (n : Nat) : Nat := Nat.pow 2 n

/-- A power of ten. -/
def tenTo (n : Nat) : Nat := Nat.pow 10 n

/-- Whether the sign bit is set. -/
def isNegative (x : Float) : Bool :=
  x.toBits.toNat / twoTo 63 == 1

/-- A number without its sign. -/
def kindOf (x : Float) : Kind :=
  let bits : Nat := x.toBits.toNat
  let fraction : Nat := bits % twoTo 52
  let biased : Nat := bits / twoTo 52 % twoTo 11
  if biased = 2047 then if fraction = 0 then .infinite else .nan
  else if biased = 0 then .finite ⟨fraction, -1074, false⟩
  else .finite ⟨twoTo 52 + fraction, (biased : Int) - 1075, fraction == 0 && biased != 1⟩

/-- A decimal `digits * 10 ^ exponent`. -/
structure Scientific where
  digits : Nat
  exponent : Int
  deriving Repr

/-- Which of two equally near decimals is taken. -/
inductive Tie where
  /-- The one with an even last digit. -/
  | toEven
  /-- The one farther from zero. -/
  | away
  deriving Repr, DecidableEq

/-- Whether the lower of two equally near decimals is taken, by its digits. -/
def Tie.takesLower (tie : Tie) (lower : Nat) : Bool :=
  match tie with
  | .toEven => lower % 2 == 0
  | .away => false

/-- The number of decimal digits of a number; 1 for 0. -/
def digitCount (n : Nat) : Nat :=
  (Nat.toDigits 10 n).length

/-- The powers of ten that `kindOf` can meet below the point, as a shift that leaves none there. -/
def belowPoint : Nat := 400

/-- The place of the first digit: the number is below `10 ^ place` and not below a tenth of that. -/
def firstPlace (s : Magnitude) : Int :=
  let shifted := s.mantissa * twoTo s.exponent.toNat * tenTo belowPoint / twoTo (-s.exponent).toNat
  (digitCount shifted : Int) - belowPoint

/-- The best decimal with `count` digits that reads back as the number, if there is one. -/
def withDigits? (tie : Tie) (s : Magnitude) (count : Nat) : Option Scientific :=
  let exponent := firstPlace s - count
  -- In quarters of the last binary place, times `left`; a grid point `n` is `n * right`.
  let scale := s.exponent - 2
  let left := twoTo scale.toNat * tenTo (-exponent).toNat
  let right := tenTo exponent.toNat * twoTo (-scale).toNat
  let value := 4 * s.mantissa * left
  let low := (4 * s.mantissa - if s.narrowBelow then 1 else 2) * left
  let high := (4 * s.mantissa + 2) * left
  let closed := s.mantissa % 2 == 0
  let reads (n : Nat) : Bool :=
    if closed then low ≤ n * right && n * right ≤ high else low < n * right && n * right < high
  let below := value / right
  let above := below + 1
  let result (n : Nat) : Scientific := ⟨n, exponent⟩
  match reads below, reads above with
  | false, false => none
  | true, false => some (result below)
  | false, true => some (result above)
  | true, true =>
    let down := value - below * right
    let up := above * right - value
    if down < up || (down == up && tie.takesLower below) then some (result below)
    else some (result above)

/-- The decimal without trailing zeros in its digits. -/
def stripZeros : Nat → Scientific → Scientific
  | 0, d => d
  | fuel + 1, d =>
    if d.digits ≠ 0 ∧ d.digits % 10 = 0 then stripZeros fuel ⟨d.digits / 10, d.exponent + 1⟩ else d

/-- The shortest decimal that reads back as the number; seventeen digits are always enough. -/
def shortest (tie : Tie) (s : Magnitude) : Scientific :=
  if s.mantissa = 0 then ⟨0, 0⟩
  else
    match (List.range 17).findSome? fun i => withDigits? tie s (i + 1) with
    | some d => stripZeros 17 d
    | none => ⟨0, 0⟩

end TextRepair.Decimal
