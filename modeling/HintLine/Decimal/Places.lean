import HintLine.Decimal.Layout
import HintLine.Decimal.Nearest

/-!
Decimal numbers with a number of places that is asked for. The binary number is rounded once, from its exact
value; a half goes to the even side. The places are counted behind the point, or from the first digit on that is
not zero.
-/

set_option autoImplicit false

namespace HintLine.Decimal

/-- The number in whole units of `10 ^ unit`, rounded. -/
def Rounded.nearestUnits (r : Rounded) (unit : Int) : Nat :=
  let scaled := r.inUnits unit
  roundDiv scaled.num scaled.den

/-- The first `count` digits, rounded, and after how many of them the point stands. -/
def Rounded.leading (r : Rounded) (count : Nat) : List Char × Int :=
  let n := r.nearestUnits (r.point - count)
  if n < Nat.pow 10 count then (Nat.toDigits 10 n, r.point) else (Nat.toDigits 10 (n / 10), r.point + 1)

/-- How places are counted and shown: behind the point, behind the first digit with an exponent, or from the first
digit on and without zeros at the end, where an exponent is shown only for great and small numbers. -/
inductive Places.Style where
  | fixed
  | scientific
  | general
  deriving DecidableEq, Repr

/-- A style with a number of places; if `full`, the point and the zeros at the end are kept. -/
structure Places where
  style : Places.Style
  count : Nat
  full : Bool
  deriving DecidableEq, Repr

namespace Places

def joined (p : Places) (front part : List Char) : List Char :=
  if part.isEmpty && !p.full then front else front ++ '.' :: part

/-- The first digits of a number; those of zero are zeros. -/
def leading (count : Nat) : Option Rounded → List Char × Int
  | some r => r.leading count
  | none => (zeros count, 1)

def fixedText (p : Places) (r : Option Rounded) : List Char :=
  let digits := Nat.toDigits 10 ((r.map (·.nearestUnits (-(p.count : Int)))).getD 0)
  let digits := zeros (p.count + 1 - digits.length) ++ digits
  p.joined (digits.take (digits.length - p.count)) (digits.drop (digits.length - p.count))

/-- Digits with the point behind the first, and an exponent. -/
def scientificText (p : Places) (digits : List Char) (point : Int) : List Char :=
  p.joined (digits.take 1) (digits.drop 1) ++ exponentText 2 (point - 1)

/-- A number with its places counted from the first digit on. -/
def generalText (p : Places) (r : Option Rounded) : List Char :=
  let count := max p.count 1
  let (all, point) := leading count r
  let kept := if p.full then all else dropTrailingZeros all
  let digits := if kept.isEmpty then ['0'] else kept
  if point ≤ -4 || count < point then p.scientificText digits point
  else if point ≤ 0 then p.joined ['0'] (zeros (-point).toNat ++ digits)
  else
    p.joined (digits.take point.toNat ++ zeros (point.toNat - digits.length)) (digits.drop point.toNat)

/-- A number without its sign; `none` is zero. -/
def magnitude (p : Places) (r : Option Rounded) : List Char :=
  match p.style with
  | .fixed => p.fixedText r
  | .scientific => let (digits, point) := leading (p.count + 1) r; p.scientificText digits point
  | .general => p.generalText r

def text (p : Places) (x : Float) : List Char :=
  let signed (negative : Bool) (s : List Char) := if negative then '-' :: s else s
  match Parts.ofFloat x with
  | .nan => ['n', 'a', 'n']
  | .infinity negative => signed negative ['i', 'n', 'f']
  | .zero negative => signed negative (p.magnitude none)
  | .finite negative mantissa exponent narrow =>
    signed negative (p.magnitude (some (.ofBinary mantissa exponent narrow)))

end Places

end HintLine.Decimal
