/-!
The shortest decimal that reads back as a binary floating-point number. A finite number is a fraction with
the interval of reals that round to it; for one digit, two digits, and so on the two neighbours of the
number on that decimal grid are tested, and the first grid with a hit gives the digits.
-/

set_option autoImplicit false

namespace HintLine.Decimal

/-- A positive number `num / den` and the reals that round to it, from `low / den` to `high / den`; the
ends belong to them if `closed`. -/
structure Rounded where
  num : Nat
  low : Nat
  high : Nat
  den : Nat
  closed : Bool
  deriving Repr

/-- The number `mantissa * 2 ^ exponent`. The number below is only half as far away if `narrow`. -/
def Rounded.ofBinary (mantissa : Nat) (exponent : Int) (narrow : Bool) : Rounded :=
  let up := Nat.pow 2 exponent.toNat
  { num := 4 * mantissa * up
    low := (4 * mantissa - (if narrow then 1 else 2)) * up
    high := (4 * mantissa + 2) * up
    den := 4 * Nat.pow 2 (-exponent).toNat
    closed := mantissa % 2 == 0 }

def Rounded.inUnits (r : Rounded) (unit : Int) : Rounded :=
  let up := Nat.pow 10 (-unit).toNat
  { r with num := r.num * up, low := r.low * up, high := r.high * up, den := r.den * Nat.pow 10 unit.toNat }

/-- Whether a whole number of units rounds to the number. -/
def Rounded.admits (r : Rounded) (c : Nat) : Bool :=
  let here := c * r.den
  if r.closed then r.low ≤ here && here ≤ r.high else r.low < here && here < r.high

/-- The neighbour of the number on the grid of whole units that rounds to it; of two the nearer, of two
equally near the even one. -/
def Rounded.onGrid? (r : Rounded) : Option Nat :=
  let below := r.num / r.den
  let above := below + 1
  match r.admits below, r.admits above with
  | false, false => none
  | true, false => some below
  | false, true => some above
  | true, true =>
    let left := r.num - below * r.den
    let right := above * r.den - r.num
    if left < right || (left == right && below % 2 == 0) then some below else some above

/-- How many decimal digits a number has before the point; none for a number below one. -/
def wholeDigits (n : Nat) : Nat := if n = 0 then 0 else (Nat.toDigits 10 n).length

/-- How many zeros stand between the point and the first digit of `num / den`, a number below one. -/
def leadingZeros (fuel num den : Nat) : Nat :=
  match fuel with
  | 0 => 0
  | fuel + 1 => if den ≤ 10 * num then 0 else leadingZeros fuel (10 * num) den + 1

/-- The power of ten just above a number: the number is below `10 ^ point` and not below a tenth of it. -/
def Rounded.point (r : Rounded) : Int :=
  if r.den ≤ r.num then wholeDigits (r.num / r.den) else -(leadingZeros 400 r.num r.den : Int)

/-- The digits as a whole number, and the power of ten that they count, with at least `digits` and at most
`digits + fuel` digits. -/
def Rounded.search (r : Rounded) (point : Int) : (fuel digits : Nat) → Nat × Int
  | 0, digits => let unit := point - digits; (((r.inUnits unit).num / (r.inUnits unit).den), unit)
  | fuel + 1, digits =>
    let unit := point - digits
    match (r.inUnits unit).onGrid? with
    | some c => (c, unit)
    | none => r.search point fuel (digits + 1)

/-- Digits and their unit, with the fewest digits; seventeen always suffice. -/
def Rounded.shortest (r : Rounded) : Nat × Int := r.search r.point 17 1

/-- A floating-point number taken apart. -/
inductive Parts where
  | nan
  | infinity (negative : Bool)
  | zero (negative : Bool)
  | finite (negative : Bool) (mantissa : Nat) (exponent : Int) (narrow : Bool)
  deriving Repr

def Parts.ofFloat (x : Float) : Parts :=
  let bits : Nat := x.toBits.toNat
  let negative : Bool := Nat.pow 2 63 ≤ bits
  let exponent : Nat := bits / Nat.pow 2 52 % Nat.pow 2 11
  let fraction : Nat := bits % Nat.pow 2 52
  if exponent = 2047 then (if fraction = 0 then .infinity negative else .nan)
  else if exponent = 0 then
    if fraction = 0 then .zero negative else .finite negative fraction (-1074) false
  else
    .finite negative (Nat.pow 2 52 + fraction) ((exponent : Int) - 1075) (fraction == 0 && 1 < exponent)

/-- The whole number that is left when what stands after the point is dropped. -/
def Parts.whole? : Parts → Option Int
  | nan => none
  | infinity _ => none
  | zero _ => some 0
  | finite negative mantissa exponent _ =>
    let n : Nat := if 0 ≤ exponent then mantissa * Nat.pow 2 exponent.toNat else mantissa / Nat.pow 2 (-exponent).toNat
    some (if negative then -(n : Int) else n)

end HintLine.Decimal
