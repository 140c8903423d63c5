import HintLine.Value

/-!
Reports on settings that are not valid. A report lists, in the order in which the fields are declared, what is
wrong with each; the value found is shown in full up to fifty bytes, and else by its two ends.
-/

set_option autoImplicit false

namespace HintLine.Settings

/-- What is wrong with a field. -/
inductive Defect where
  | boolParsing
  | boolType
  | literal (expected : List String)
  | stringType
  | callableType
  deriving DecidableEq, Repr

/-- Names in apostrophes, the last two joined by a word. -/
def alternatives : List String → String
  | [] => ""
  | [a] => s!"'{a}'"
  | [a, b] => s!"'{a}' or '{b}'"
  | a :: rest => s!"'{a}', {alternatives rest}"

namespace Defect

def code : Defect → String
  | boolParsing => "bool_parsing"
  | boolType => "bool_type"
  | literal _ => "literal_error"
  | stringType => "string_type"
  | callableType => "callable_type"

def text : Defect → String
  | boolParsing => "Input should be a valid boolean, unable to interpret input"
  | boolType => "Input should be a valid boolean"
  | literal expected => s!"Input should be {alternatives expected}"
  | stringType => "Input should be a valid string"
  | callableType => "Input should be callable"

end Defect

/-- The number of bytes of a value that is shown in full. -/
def shownBytes : Nat := 50

/-- The longest start of a text that fits into a number of bytes. -/
def takeBytes : Nat → List Char → List Char
  | _, [] => []
  | n, c :: rest => if c.utf8Size ≤ n then c :: takeBytes (n - c.utf8Size) rest else []

/-- The longest end of a text that fits into a number of bytes. -/
def takeLastBytes (n : Nat) (s : List Char) : List Char := (takeBytes n s.reverse).reverse

def shown (literal : String) : String :=
  if literal.utf8ByteSize ≤ shownBytes then literal
  else
    String.ofList (takeBytes 25 literal.toList) ++ "..." ++ String.ofList (takeLastBytes 24 literal.toList)

/-- What is wrong with one field. -/
structure Problem where
  field : String
  defect : Defect
  literal : String
  kind : String
  deriving DecidableEq, Repr

def Problem.text (p : Problem) : String :=
  s!"{p.field}\n  {p.defect.text} [type={p.defect.code}, input_value={shown p.literal}, input_type={p.kind}]"

/-- All that is wrong with some settings; `model` is what they should have been. -/
structure Report where
  model : String
  problems : List Problem
  deriving DecidableEq, Repr

def Report.message (r : Report) : String :=
  let n := r.problems.length
  let errors := if n = 1 then "error" else "errors"
  String.intercalate "\n" (s!"{n} validation {errors} for {r.model}" :: r.problems.map Problem.text)

end HintLine.Settings
