/-!
How the reading of a text ends: with what was read and the characters that follow, or with a refusal. A
refusal says whether a character did not fit where it stands, and then what the text is from there on.
-/

set_option autoImplicit false

namespace HintLine.Toml

/-- Why a text is refused. -/
inductive Refusal where
  | character (rest : List Char)
  | meaningless
  deriving DecidableEq, Repr

def Refusal.ofOption {α : Type} : Option α → Except Refusal α
  | some a => .ok a
  | none => .error .meaningless

end HintLine.Toml
