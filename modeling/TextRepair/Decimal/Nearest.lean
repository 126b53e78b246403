/-!
# The floating-point number next to a decimal
-/

namespace TextRepair.Decimal

/-- The decimal place beyond which every number is 0 or infinite. -/
def placeBound : Int := 400

/-- The floating-point number next to `mantissa * 10 ^ exponent`, infinite beyond the range. -/
def nearest (mantissa : Nat) (exponent : Int) : Float :=
  let place : Int := exponent + (Nat.toDigits 10 mantissa).length
  if mantissa = 0 then 0.0
  else if place < -placeBound then 0.0
  else if placeBound < place then 1.0 / 0.0
  else Float.ofScientific mantissa (exponent < 0) exponent.natAbs

end TextRepair.Decimal
