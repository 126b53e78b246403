/-!
# Scores

Matching works with scores between 0 and 1. The search and its choices are written over any type
with the arithmetic below, so the same definitions run on binary floating point and can be read over
the exact rationals.
-/

namespace TextRepair

/-- The arithmetic of scores. -/
class Score (S : Type) extends Add S, Sub S, Mul S, Div S where
  /-- A whole number. -/
  ofNat : Nat → S
  /-- The decimal fraction `mantissa / 10 ^ places`. -/
  decimal : (mantissa places : Nat) → S
  /-- The distance from zero. -/
  magnitude : S → S
  /-- The largest whole number not above a score, 0 for a negative one. -/
  floor : S → Nat
  /-- Whether the first score is at most the second. -/
  le : S → S → Bool
  /-- Whether the first score is below the second. -/
  lt : S → S → Bool

instance : Score Float where
  ofNat := Float.ofNat
  decimal mantissa places := Float.ofScientific mantissa true places
  magnitude := Float.abs
  floor x := x.floor.toUInt64.toNat
  le a b := a ≤ b
  lt a b := a < b

instance : Score Rat where
  toAdd := Rat.instAdd
  toSub := Rat.instSub
  toMul := Rat.instMul
  toDiv := Rat.instDiv
  ofNat n := mkRat n 1
  decimal mantissa places := mkRat mantissa (Nat.pow 10 places)
  magnitude x := mkRat x.num.natAbs x.den
  floor x := x.floor.toNat
  le a b := !b.blt a
  lt a b := a.blt b

namespace Score

variable {S : Type} [Score S]

/-- The smaller of two scores. -/
def least (a b : S) : S :=
  if lt b a then b else a

/-- The larger of two scores. -/
def greatest (a b : S) : S :=
  if lt a b then b else a

/-- A score moved into the interval from 0 to 1. -/
def clamp (x : S) : S :=
  if lt x (ofNat 0) then ofNat 0 else if lt (ofNat 1) x then ofNat 1 else x

/-- The tolerance for comparing scores: quotients such as `1 - 8/10` need not be exact. -/
def tolerance : S :=
  decimal 1 9

/-- The factor on the confidence of a match with equally good rivals. -/
def ambiguityFactor : S :=
  decimal 95 2

/-- The highest confidence of a match that is not verbatim. -/
def inexactCap : S :=
  decimal 99 2

/-- The confidence of a match of lines that are equal up to blanks. -/
def blankCap : S :=
  decimal 9 1

/-- Equal up to the tolerance. -/
def near (a b : S) : Bool :=
  le (magnitude (a - b)) tolerance

/-- At least `bound` up to the tolerance. -/
def reaches (score bound : S) : Bool :=
  le bound (score + tolerance)

end Score

end TextRepair
