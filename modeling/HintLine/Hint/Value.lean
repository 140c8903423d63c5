import HintLine.Hint.Label
import HintLine.Tree.Basic

/-!
The value that a type hint is for. A server puts such a hint right behind an expression, so its text is that of
the syntax node just before the hint.
-/

set_option autoImplicit false

namespace HintLine.Hint

/-- The row and column just before a hint, if there are any. -/
def pointBefore? (line character : Int) : Option (Int × Int) :=
  if line - 1 < 0 ∨ character - 1 < 0 then none else some (line - 1, character - 1)

/-- The value before a hint, shortened; none without a tree, a buffer or a place before the hint. -/
def value {σ : Type} (tree : Option (Lookup σ)) (buffer : Ident) (line character : Int) :
    Act σ (Option String) :=
  match tree, buffer, pointBefore? line character with
  | none, _, _ => return none
  | _, .absent, _ => return none
  | _, _, none => return none
  | some lookup, buffer, some (row, column) => do
    Act.emit (.lookup buffer row column)
    return (← lookup buffer row column).map Label.shorten

end HintLine.Hint
