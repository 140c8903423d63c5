import HintLine.Fault
import HintLine.Hint.Basic

/-!
Things that can be called. The program calls what a plug-in offers in two ways: a display with a line and its
hints, and the source of a language alone.
-/

set_option autoImplicit false

namespace HintLine.Plugin

/-- Something that can be called, with what each way of calling it gives. -/
structure Callable where
  name : String
  onLine : (line : Int) → List Hint → Except Fault Value
  alone : Except Fault Value

namespace Callable

def ofSource (name : String) (value : Except Fault Value) : Callable where
  name := name
  onLine _ _ := .error (.call (.tooMany name 0 2))
  alone := value

def ofDisplay (name : String) (f : Int → List Hint → Except Fault Value) : Callable where
  name := name
  onLine := f
  alone := .error (.call (.missing name ["line", "hints"]))

end Callable

end HintLine.Plugin
