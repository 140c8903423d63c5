import HintLine.Text.Blank

/-!
Whole numbers as people type them: blanks around, an optional sign, an optional mark of the base, then digits
with single underscores between them. Decimal digits of any script count; beyond nine stand Latin letters.
-/

set_option autoImplicit false

namespace HintLine.Text.Digits

open HintLine.Text.Blank (isBlank isAsciiBlank)

/-- The code points of the digit zero in each script that has decimal digits; the other nine follow it. -/
def zeros : List Nat :=
  [0x30, 0x660, 0x6F0, 0x7C0, 0x966, 0x9E6, 0xA66, 0xAE6, 0xB66, 0xBE6, 0xC66, 0xCE6, 0xD66, 0xDE6, 0xE50,
   0xED0, 0xF20, 0x1040, 0x1090, 0x17E0, 0x1810, 0x1946, 0x19D0, 0x1A80, 0x1A90, 0x1B50, 0x1BB0, 0x1C40,
   0x1C50, 0xA620, 0xA8D0, 0xA900, 0xA9D0, 0xA9F0, 0xAA50, 0xABF0, 0xFF10, 0x104A0, 0x10D30, 0x11066,
   0x110F0, 0x11136, 0x111D0, 0x112F0, 0x11450, 0x114D0, 0x11650, 0x116C0, 0x11730, 0x118E0, 0x11950,
   0x11C50, 0x11D50, 0x11DA0, 0x16A60, 0x16AC0, 0x16B50, 0x1D7CE, 0x1D7D8, 0x1D7E2, 0x1D7EC, 0x1D7F6,
   0x1E140, 0x1E2F0, 0x1E950, 0x1FBF0]

def value? (c : Char) : Option Nat :=
  (zeros.find? fun z => z ≤ c.toNat && c.toNat < z + 10).map (c.toNat - ·)

/-- The value of a Latin letter that serves as a digit, ten and up. -/
def letter? (c : Char) : Option Nat :=
  if 'a' ≤ c && c ≤ 'z' then some (c.toNat - 87)
  else if 'A' ≤ c && c ≤ 'Z' then some (c.toNat - 55)
  else none

def digit? (base : Nat) (c : Char) : Option Nat :=
  ((value? c).or (letter? c)).filter (· < base)

/-- Digits of a base in groups that single underscores part; every group has a digit. `none` for anything
else. The flag says that the last character read was a digit. -/
def read? (base : Nat) (seen : Nat) (afterDigit : Bool) : List Char → Option Nat
  | [] => if afterDigit then some seen else none
  | c :: rest =>
    if c = '_' then (if afterDigit then read? base seen false rest else none)
    else
      match digit? base c with
      | some d => read? base (base * seen + d) true rest
      | none => none

/-- The blanks that may stand around a number: the six common ones of ASCII, and all beyond ASCII. -/
def isMargin (c : Char) : Bool := if c.toNat < 128 then isAsciiBlank c else isBlank c

def trim (s : List Char) : List Char :=
  ((s.dropWhile isMargin).reverse.dropWhile isMargin).reverse

/-- A sign, if there is one, and the rest; the flag says that it is a minus sign. -/
def sign : List Char → Bool × List Char
  | '-' :: rest => (true, rest)
  | '+' :: rest => (false, rest)
  | s => (false, s)

/-- The letter that names a base in front of digits, after a zero. -/
def mark? (base : Nat) : Option Char :=
  if base = 16 then some 'x' else if base = 8 then some 'o' else if base = 2 then some 'b' else none

/-- Without the mark of the base, which may have an underscore behind it. -/
def dropMark (base : Nat) (s : List Char) : List Char :=
  match s with
  | z :: m :: rest =>
    if value? z = some 0 && mark? base = some m.toLower then
      match rest with
      | '_' :: more => more
      | _ => rest
    else s
  | _ => s

def maxDigits : Nat := 4300

def parse? (base : Nat) (s : List Char) : Option Int :=
  let (negative, body) := sign (trim s)
  let digits := dropMark base body
  if base = 10 && maxDigits < digits.countP (· ≠ '_') then none
  else (read? base 0 false digits).map fun n => if negative then -(n : Int) else n

end HintLine.Text.Digits
