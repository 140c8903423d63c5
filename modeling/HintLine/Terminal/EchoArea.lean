import HintLine.Echo.Line
import HintLine.Terminal.Plain

/-!
The echo area on a terminal. A line is formatted as a whole before anything of it is written, so a fragment
that cannot be formatted keeps the whole line from being written. Styles stay only where colour is wanted.
-/

set_option autoImplicit false

namespace HintLine.Terminal

open HintLine.Echo (Highlight)

abbrev Styles := List (String × Style)

def Styles.standard : Styles :=
  [(Highlight.cursor.name, [("reverse", .bool true)]),
   (Highlight.normal.name, []),
   (Highlight.identifier.name, [("fg", .str "cyan")]),
   (Highlight.delimiter.name, [("fg", .str "bright_black")]),
   (Highlight.type.name, [("fg", .str "green")]),
   (Highlight.error.name, [("fg", .str "red"), ("bold", .bool true)])]

/-- The style of a highlight; one that is not known has none. -/
def Styles.style (styles : Styles) : Value → Except StyleError Style
  | .str name => .ok ((styles.lookup name).getD [])
  | .list _ => .error (.unhashable (Value.list []).kind)
  | .dict _ => .error (.unhashable (Value.dict []).kind)
  | _ => .ok []

/-- One fragment, which has to be a pair of a text and a highlight, in its style. -/
def Styles.formatOne (styles : Styles) (fragment : Value) : Except Fault String :=
  match fragment.pair with
  | .error e => .error (.unpack e)
  | .ok (text, highlight) =>
    match styles.style highlight with
    | .error e => .error (.style e)
    | .ok style =>
      match style.apply text.text with
      | .error e => .error (.style e)
      | .ok s => .ok s

/-- Fragments in their styles, one after the other. -/
def Styles.format (styles : Styles) : List Value → Except Fault String
  | [] => .ok ""
  | f :: fs =>
    match styles.formatOne f with
    | .error e => .error e
    | .ok s => (styles.format fs).map (s ++ ·)

/-- An echo area: its styles, whether colour is wanted, and the fragments that it was given last. -/
structure EchoArea where
  styles : Styles
  colour : Option Bool
  last : List Value

namespace EchoArea

def new (styles : Styles) (colour : Option Bool) : EchoArea := ⟨styles, colour, []⟩

/-- A text as it is written: with its control sequences only if colour is wanted. -/
def written (area : EchoArea) (text : String) : String := Plain.shown area.colour text

def echo (fragments : List Value) : Act EchoArea Unit := do
  Act.modify fun area => { area with last := fragments }
  let area ← Act.get
  let text ← Act.ofExcept (area.styles.format fragments)
  Act.emit (.out (area.written text ++ "\n"))

theorem echo_apply (fragments : List Value) (area : EchoArea) : echo fragments area =
    match area.styles.format fragments with
    | .ok s => ⟨.ok (), { area with last := fragments }, [.out (area.written s ++ "\n")]⟩
    | .error e => ⟨.error e, { area with last := fragments }, []⟩ := by
  unfold echo
  rw [Act.bind_apply_ok (Act.modify_apply _ area), Act.bind_apply_ok (Act.get_apply _)]
  dsimp only
  cases area.styles.format fragments <;> rfl

def messageHighlight (kind : Message.Kind) : Highlight := if kind = .error then .error else .normal

def send (area : EchoArea) (text : String) (kind : Message.Kind) : Except Fault Trace :=
  (area.styles.format [Echo.Fragment.value ⟨text, messageHighlight kind⟩]).map fun s =>
    [.err (area.written s ++ "\n")]

end EchoArea

end HintLine.Terminal
