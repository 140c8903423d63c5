import HintLine.Decimal.Nearest
import HintLine.Text.Digits

/-!
Numbers with a fraction or an exponent as people type them, and the words for infinity and for what is no
number. Blanks may stand around, a sign in front. At least one digit has to stand on one side of the point.
-/

set_option autoImplicit false

namespace HintLine.Decimal

open HintLine.Text (Digits.value? Digits.sign Digits.trim)

/-- The digits that a text starts with, and what follows them. -/
def digits (s : List Char) : List Nat × List Char :=
  (s.takeWhile (fun c => (Digits.value? c).isSome) |>.filterMap Digits.value?,
    s.dropWhile fun c => (Digits.value? c).isSome)

def ofDigits (ds : List Nat) : Nat := ds.foldl (fun n d => 10 * n + d) 0

/-- What stands behind the digits: nothing, or an exponent. -/
def exponent? : List Char → Option Int
  | [] => some 0
  | c :: rest =>
    let (negative, body) := Digits.sign rest
    match digits body with
    | (d :: ds, []) =>
      if c = 'e' || c = 'E' then
        let e : Int := ofDigits (d :: ds)
        some (if negative then -e else e)
      else none
    | _ => none

/-- The words that stand for infinity and for what is no number. -/
def special? (word : String) (negative : Bool) : Option Float :=
  if word = "inf" || word = "infinity" then some (if negative then -(1.0 / 0.0) else 1.0 / 0.0)
  else if word = "nan" then some (0.0 / 0.0)
  else none

/-- The number that a text writes, rounded to the nearest that there is. -/
def typed? (s : List Char) : Option Float :=
  let (negative, body) := Digits.sign (Digits.trim s)
  match special? (String.ofList body).toLower negative with
  | some x => some x
  | none =>
    let (whole, rest) := digits body
    let (places, rest) :=
      match rest with
      | '.' :: more => digits more
      | _ => ([], rest)
    if whole.isEmpty && places.isEmpty then none
    else (exponent? rest).map fun e => nearest negative (ofDigits (whole ++ places)) (e - places.length)

end HintLine.Decimal
