import HintLine.Decimal.Layout
import HintLine.Text.Quoted

/-!
Values that come from outside with no type of their own: what a settings file or a display function gives.
`literal` shows a value as one would write it down, `text` leaves a string bare. A value can be asked for its
members, and for exactly two of them.
-/

set_option autoImplicit false

namespace HintLine

/-- A value from outside. An object is known by its kind and by what it looks like. -/
inductive Value where
  | null
  | bool (b : Bool)
  | int (n : Int)
  | float (x : Float)
  | str (s : String)
  | list (items : List Value)
  | dict (fields : List (String × Value))
  | object (kind literal : String)
  deriving Inhabited

/-- Why a value could not be taken apart. -/
inductive UnpackError where
  | notIterable (kind : String)
  | notPair (kind : String)
  | tooMany
  | tooFew (got : Nat)
  deriving DecidableEq, Repr

namespace UnpackError

def message : UnpackError → String
  | notIterable kind => s!"'{kind}' object is not iterable"
  | notPair kind => s!"cannot unpack non-iterable {kind} object"
  | tooMany => "too many values to unpack (expected 2)"
  | tooFew got => s!"not enough values to unpack (expected 2, got {got})"

end UnpackError

namespace Value

open HintLine.Text.Quoted (quoted)

def kind : Value → String
  | null => "NoneType"
  | bool _ => "bool"
  | int _ => "int"
  | float _ => "float"
  | str _ => "str"
  | list _ => "list"
  | dict _ => "dict"
  | object kind _ => kind

mutual

def literal : Value → String
  | null => "None"
  | bool true => "True"
  | bool false => "False"
  | int n => toString n
  | float x => Decimal.Layout.plain.text x
  | str s => quoted s
  | list items => "[" ++ String.intercalate ", " (literals items) ++ "]"
  | dict fields => "\x7b" ++ String.intercalate ", " (fieldLiterals fields) ++ "\x7d"
  | object _ literal => literal

def literals : List Value → List String
  | [] => []
  | v :: vs => literal v :: literals vs

def fieldLiterals : List (String × Value) → List String
  | [] => []
  | (k, v) :: fs => (quoted k ++ ": " ++ literal v) :: fieldLiterals fs

end

/-- How many digits a number may have to be written down. -/
def maxDigits : Nat := 4300

mutual

/-- Whether a value can be written down: each number in it is short enough. -/
def isWritable : Value → Bool
  | int n => n.natAbs < Nat.pow 10 maxDigits
  | list items => areWritable items
  | dict fields => fieldsWritable fields
  | _ => true

def areWritable : List Value → Bool
  | [] => true
  | v :: vs => isWritable v && areWritable vs

def fieldsWritable : List (String × Value) → Bool
  | [] => true
  | (_, v) :: fs => isWritable v && fieldsWritable fs

end

def text : Value → String
  | str s => s
  | v => literal v

/-- Nothing, zero and what is empty count as no; all else counts as yes. -/
def truth : Value → Bool
  | null => false
  | bool b => b
  | int n => n ≠ 0
  | float x => !(x == 0)
  | str s => s ≠ ""
  | list items => !items.isEmpty
  | dict fields => !fields.isEmpty
  | object _ _ => true

/-- The members of a value: the items of a list, the keys of a dictionary, the characters of a string. -/
def members? : Value → Option (List Value)
  | list items => some items
  | dict fields => some (fields.map fun f => str f.1)
  | str s => some (s.toList.map fun c => str (String.singleton c))
  | _ => none

/-- The members, or why there are none. -/
def members (v : Value) : Except UnpackError (List Value) :=
  match v.members? with
  | some vs => .ok vs
  | none => .error (.notIterable v.kind)

def pair (v : Value) : Except UnpackError (Value × Value) :=
  match v.members? with
  | none => .error (.notPair v.kind)
  | some [a, b] => .ok (a, b)
  | some [] => .error (.tooFew 0)
  | some [_] => .error (.tooFew 1)
  | some _ => .error .tooMany

@[simp] theorem text_str (s : String) : (str s).text = s := rfl

@[simp] theorem pair_list (a b : Value) : (list [a, b]).pair = .ok (a, b) := rfl

end Value

end HintLine
