import HintLine.Echo.Line
import HintLine.Plugin.Callable

/-!
How the hints of a line are turned into fragments: in the way of this library, or by a function of the user's
own. Such a function may give nothing; otherwise each member of what it gives has to be a pair.
-/

set_option autoImplicit false

namespace HintLine.Echo

open HintLine.Plugin (Callable)

/-- How lines are displayed. -/
inductive Display where
  | standard
  | custom (function : Callable)

/-- The pairs among the members of a value, up to the first that is none. -/
def pairs : List Value → Except UnpackError (List (Value × Value))
  | [] => .ok []
  | v :: vs => do
    let p ← v.pair
    return p :: (← pairs vs)

/-- The fragments that the result of a display function stands for. -/
def fragmentValues (result : Value) : Except UnpackError (List Value) := do
  let ps ← pairs (← result.members)
  return ps.map fun p => .list [p.1, p.2]

variable {σ : Type}

/-- The fragments that a function gives for a line; `none` if it gives nothing. -/
def called (f : Callable) (line : Int) (hints : List Hint) : Act σ (Option (List Value)) := do
  match ← Act.ofExcept (f.onLine line hints) with
  | .null =>
    Act.log .trace s!"Display function returned nothing for line {line}"
    return none
  | result => return some (← Act.ofResult .unpack (fragmentValues result))

/-- The fragments of a line, as values; `none` if nothing is to be shown. -/
def Display.fragments (display : Display) (scene : Scene σ) (line : Int) (hints : List Hint) :
    Act σ (Option (List Value)) :=
  match display with
  | .standard => do return some ((← Echo.fragments scene line hints).map Fragment.value)
  | .custom f => called f line hints

end HintLine.Echo
