/-!
Texts in fields of a least width. A text is set to the right of its field unless it is asked to stand at the left.
A number may show a plus sign or a blank where it has no minus sign, and may be filled up with zeros behind its
sign and the mark of its base.
-/

set_option autoImplicit false

namespace HintLine.Text

/-- What is asked of a field. -/
structure Field where
  left : Bool
  plus : Bool
  blank : Bool
  full : Bool
  zeros : Bool
  width : Nat
  deriving DecidableEq, Repr

namespace Field

def free : Field := ⟨false, false, false, false, false, 0⟩

def filler (f : Field) (c : Char) (s : List Char) : List Char := List.replicate (f.width - s.length) c

def text (f : Field) (s : List Char) : List Char :=
  if f.left then s ++ f.filler ' ' s else f.filler ' ' s ++ s

/-- A number in its field: a minus sign if it has one, the mark of its base, and the rest. -/
def number (f : Field) (negative : Bool) (mark rest : List Char) : List Char :=
  let front := (if negative then ['-'] else if f.plus then ['+'] else if f.blank then [' '] else []) ++ mark
  if f.zeros && !f.left then front ++ f.filler '0' (front ++ rest) ++ rest
  else f.text (front ++ rest)

end Field

end HintLine.Text
