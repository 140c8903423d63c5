/-!
Inlay hints. A server sends an `Inlay`: a label, in one piece or in parts, at a position of the document. What
is kept and shown of it is a `Hint`.
-/

set_option autoImplicit false

namespace HintLine

/-- The greatest line or character number that the protocol allows. -/
def Position.bound : Nat := Nat.pow 2 31 - 1

/-- A place in a document: a line counted from zero, and a character in it. -/
structure Position where
  line : Nat
  character : Nat
  line_le : line ≤ Position.bound
  character_le : character ≤ Position.bound
  deriving DecidableEq, Repr

/-- Which number of a position is out of range. -/
inductive PositionError where
  | line (given : Int)
  | character (given : Int)
  deriving DecidableEq, Repr

def PositionError.message : PositionError → String
  | line n => s!"Position.line should be in range [0:{Position.bound}], but was {n}."
  | character n => s!"Position.character should be in range [0:{Position.bound}], but was {n}."

/-- Whether a number may be a line or a character of a position. -/
def Position.admits (n : Int) : Prop := 0 ≤ n ∧ n ≤ Position.bound

instance (n : Int) : Decidable (Position.admits n) := inferInstanceAs (Decidable (_ ∧ _))

/-- A position from two numbers; the line is checked first. -/
def Position.ofInts (line character : Int) : Except PositionError Position :=
  if hl : Position.admits line then
    if hc : Position.admits character then
      .ok ⟨line.toNat, character.toNat, by have := hl.2; omega, by have := hc.2; omega⟩
    else .error (.character character)
  else .error (.line line)

/-- The label of a hint. -/
inductive Label where
  | whole (text : String)
  | parts (texts : List String)
  deriving DecidableEq, Repr

/-- The text of a label; parts are joined without anything between them. -/
def Label.text : Label → String
  | whole text => text
  | parts texts => String.join texts

/-- A hint as a server sends it. -/
structure Inlay where
  position : Position
  label : Label
  kind : Option Int
  deriving DecidableEq, Repr

/-- The number of the line, counted from one. -/
def Inlay.line (i : Inlay) : Int := i.position.line + 1

/-- A hint as it is kept: the text of its label, the character it stands before, its kind if it has one. -/
structure Hint where
  label : String
  character : Int
  kind : Option Int
  deriving DecidableEq, Repr, Inhabited

namespace Hint

def typeKind : Int := 1

def isType (h : Hint) : Bool := h.kind = some typeKind

def ofInlay (i : Inlay) : Hint := ⟨i.label.text, i.position.character, i.kind⟩

end Hint

end HintLine
