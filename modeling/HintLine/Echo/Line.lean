import HintLine.Hint.Basic
import HintLine.Hint.Value

/-!
The line that shows the hints of a line of source. Hints stand between bars, all of them in brackets; a type
hint is preceded by the value it is for, where that is known. The bar, or bracket, that stands where the cursor
is among the hints is highlighted.
-/

set_option autoImplicit false

namespace HintLine.Echo

/-- Names of highlights. -/
structure Highlight where
  name : String
  deriving DecidableEq, Repr

namespace Highlight

def cursor : Highlight := ⟨"Cursor"⟩

def normal : Highlight := ⟨"Normal"⟩

def identifier : Highlight := ⟨"Identifier"⟩

def delimiter : Highlight := ⟨"Delimiter"⟩

def type : Highlight := ⟨"Type"⟩

def error : Highlight := ⟨"ErrorMsg"⟩

end Highlight

/-- A piece of text with its highlight. -/
structure Fragment where
  text : String
  highlight : Highlight
  deriving DecidableEq, Repr

/-- What stands for a fragment where values of any kind are taken. -/
def Fragment.value (f : Fragment) : Value := .list [.str f.text, .str f.highlight.name]

/-- What surrounds a line of source while it is shown: the buffer it is in, the column of the cursor, and the
look-up of syntax nodes, if there is one. -/
structure Scene (σ : Type) where
  buffer : Ident
  column : Int
  tree : Option (Lookup σ)

variable {σ : Type}

def blank : Fragment := ⟨" ", .normal⟩

/-- A bar or bracket, highlighted if the cursor is there. -/
def bar (text : String) (here : Bool) : Fragment := ⟨text, if here then .cursor else .normal⟩

/-- The fragments of a type hint's value, if it is known. -/
def valueFragments : Option String → List Fragment
  | none => []
  | some value => [⟨value, .identifier⟩, ⟨": ", .delimiter⟩]

def content (scene : Scene σ) (line : Int) (hint : Hint) : Act σ (List Fragment) :=
  let label := Label.trim hint.label
  if hint.isType then do
    let value ← Hint.value scene.tree scene.buffer line hint.character
    return valueFragments value ++ [⟨label, .type⟩]
  else return [⟨label, .identifier⟩]

/-- The fragments from a hint on. The hint before it stood at character `last`, and `opening` stands between
the two. -/
def fragmentsFrom (scene : Scene σ) (line : Int) (last : Int) (opening : String) :
    List Hint → Act σ (List Fragment)
  | [] => return [bar "]" (last ≤ scene.column)]
  | hint :: rest => do
    let here := last ≤ scene.column ∧ scene.column < hint.character
    let shown ← content scene line hint
    let more ← fragmentsFrom scene line hint.character "|" rest
    return bar opening here :: blank :: shown ++ blank :: more

def fragments (scene : Scene σ) (line : Int) (hints : List Hint) : Act σ (List Fragment) :=
  fragmentsFrom scene line 0 "[" hints

end HintLine.Echo
