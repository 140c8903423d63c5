import HintLine.Decimal.Shortest

/-!
How a decimal number is laid out: with a point where the number is of middling size, with an exponent
elsewhere. A layout says where the one ends and the other begins.
-/

set_option autoImplicit false

namespace HintLine.Decimal

/-- The choices of a number format. A number whose point stands after the digit number `p` (negative where
zeros follow the point) is written with a point if `lowest < p ≤ highest`. -/
structure Layout where
  lowest : Int
  highest : Int
  exponentDigits : Nat

/-- Numbers from a ten-thousandth up to ten to the sixteenth are written out; others have an exponent with a
sign and at least two digits. -/
def Layout.plain : Layout := ⟨-4, 16, 2⟩

def zeros (n : Nat) : List Char := List.replicate n '0'

/-- Digits with the point after `p` of them, and at least one digit on either side. -/
def pointed (digits : List Char) (p : Int) : List Char :=
  if p ≤ 0 then '0' :: '.' :: (zeros (-p).toNat ++ digits)
  else if digits.length ≤ p.toNat then digits ++ zeros (p.toNat - digits.length) ++ ['.', '0']
  else digits.take p.toNat ++ '.' :: digits.drop p.toNat

/-- An exponent, with a sign and with zeros in front up to a width. -/
def exponentText (width : Nat) (e : Int) : List Char :=
  let magnitude := Nat.toDigits 10 e.natAbs
  'e' :: (if e < 0 then '-' else '+') :: (zeros (width - magnitude.length) ++ magnitude)

/-- Digits with the point after the first, and the exponent that makes up for it. -/
def scientific (width : Nat) (digits : List Char) (p : Int) : List Char :=
  let front := match digits with
    | [] => ['0']
    | [d] => [d]
    | d :: rest => d :: '.' :: rest
  front ++ exponentText width (p - 1)

def dropTrailingZeros (digits : List Char) : List Char :=
  (digits.reverse.dropWhile (· == '0')).reverse

def Layout.text (layout : Layout) (x : Float) : String :=
  let sign (negative : Bool) (s : List Char) := if negative then '-' :: s else s
  String.ofList <|
    match Parts.ofFloat x with
    | .nan => ['n', 'a', 'n']
    | .infinity negative => sign negative ['i', 'n', 'f']
    | .zero negative => sign negative ['0', '.', '0']
    | .finite negative mantissa exponent narrow =>
      let (number, unit) := (Rounded.ofBinary mantissa exponent narrow).shortest
      let all := Nat.toDigits 10 number
      let digits := dropTrailingZeros all
      let p : Int := all.length + unit
      sign negative <|
        if layout.lowest < p && p ≤ layout.highest then pointed digits p
        else scientific layout.exponentDigits digits p

end HintLine.Decimal
