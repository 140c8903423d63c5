/-!
The binary floating-point number nearest to a decimal. The decimal is a fraction of whole numbers; it is
measured in the unit in which its mantissa has fifty-three bits, and rounded, a half going to the even side.
-/

set_option autoImplicit false

namespace HintLine.Decimal

/-- The fraction `num / den` rounded to a whole number, a half to the even one. -/
def roundDiv (num den : Nat) : Nat :=
  let q := num / den
  let r := num % den
  if den < 2 * r || (den = 2 * r && q % 2 = 1) then q + 1 else q

/-- The fraction `num / den` in units of `2 ^ unit`, rounded. -/
def inBinaryUnits (num den : Nat) (unit : Int) : Nat :=
  roundDiv (num * Nat.pow 2 (-unit).toNat) (den * Nat.pow 2 unit.toNat)

/-- The least unit, that of the smallest numbers. -/
def leastUnit : Int := -1074

/-- The unit in which a positive fraction has a mantissa of fifty-three bits, or the least unit. -/
def binaryUnit (num den : Nat) : Int :=
  let guess : Int := (num.log2 : Int) - den.log2 - 52
  let unit := if num * Nat.pow 2 (-guess).toNat < den * Nat.pow 2 (guess.toNat + 52) then guess - 1 else guess
  max unit leastUnit

/-- The bits of the number nearest to a positive fraction, without a sign. -/
def nearestBits (num den : Nat) : Nat :=
  let unit := binaryUnit num den
  let mantissa := inBinaryUnits num den unit
  if mantissa < Nat.pow 2 52 then mantissa
  else min ((unit - leastUnit).toNat * Nat.pow 2 52 + mantissa) (2047 * Nat.pow 2 52)

/-- How many decimal places a number may be away from one before it is infinite or zero in any case. -/
def farAway : Int := 800

/-- The number nearest to `digits * 10 ^ exponent`, or to its negative. -/
def nearest (negative : Bool) (digits : Nat) (exponent : Int) : Float :=
  let places : Int := (Nat.toDigits 10 digits).length
  let magnitude :=
    if digits = 0 || exponent + places < -farAway then 0
    else if farAway < exponent + places then 2047 * Nat.pow 2 52
    else nearestBits (digits * Nat.pow 10 exponent.toNat) (Nat.pow 10 (-exponent).toNat)
  Float.ofBits (UInt64.ofNat (magnitude + (if negative then Nat.pow 2 63 else 0)))

end HintLine.Decimal
