import HintLine.Text.Printable

/-!
Text between quotes, for messages. Apostrophes enclose the text, unless it holds an apostrophe and no double
quote. A character that does not print is shown by its code: two hexadecimal digits, or four, or eight.
-/

set_option autoImplicit false

namespace HintLine.Text.Quoted

open HintLine.Text.Printable (isPrintable)

/-- The lower-case hexadecimal digit of a number below sixteen. -/
def hexDigit (n : Nat) : Char := Char.ofNat (if n < 10 then 48 + n else 87 + n)

def hex : (width n : Nat) → List Char
  | 0, _ => []
  | width + 1, n => hex width (n / 16) ++ [hexDigit (n % 16)]

def quoteFor (s : List Char) : Char :=
  if s.contains '\'' && !s.contains '"' then '"' else '\''

def escape (quote c : Char) : List Char :=
  if c = quote || c = '\\' then ['\\', c]
  else if c = '\t' then ['\\', 't']
  else if c = '\n' then ['\\', 'n']
  else if c = '\r' then ['\\', 'r']
  else if isPrintable c then [c]
  else if c.toNat < 0x100 then '\\' :: 'x' :: hex 2 c.toNat
  else if c.toNat < 0x10000 then '\\' :: 'u' :: hex 4 c.toNat
  else '\\' :: 'U' :: hex 8 c.toNat

/-- The quoted form, as characters. -/
def encode (s : List Char) : List Char :=
  let quote := quoteFor s
  quote :: (s.flatMap (escape quote) ++ [quote])

def quoted (s : String) : String := String.ofList (encode s.toList)

end HintLine.Text.Quoted
