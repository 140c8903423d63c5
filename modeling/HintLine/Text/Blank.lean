/-!
White space of running text. A character is blank if it is one of the separators that Unicode counts as
white space or one of the four information separators of ASCII; `strip` removes blanks at both ends.
-/

set_option autoImplicit false

namespace HintLine.Text.Blank

/-- Tab to carriage return, the ASCII information separators, the space, and the spaces and separators
beyond ASCII. -/
def isBlank (c : Char) : Bool :=
  let n := c.toNat
  (9 ≤ n && n ≤ 13) || (28 ≤ n && n ≤ 32) || n == 0x85 || n == 0xA0 || n == 0x1680 ||
    (0x2000 ≤ n && n ≤ 0x200A) || n == 0x2028 || n == 0x2029 || n == 0x202F || n == 0x205F || n == 0x3000

def stripStart (s : List Char) : List Char := s.dropWhile isBlank

def stripEnd (s : List Char) : List Char := (s.reverse.dropWhile isBlank).reverse

def strip (s : List Char) : List Char := stripEnd (stripStart s)

/-- White space of ASCII: tab to carriage return, and the space. -/
def isAsciiBlank (c : Char) : Bool := c = ' ' || (9 ≤ c.toNat && c.toNat ≤ 13)

end HintLine.Text.Blank
