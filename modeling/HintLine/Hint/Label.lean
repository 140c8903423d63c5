import HintLine.Text.Blank

/-!
Texts of hints, made short. `trim` takes the punctuation off a label that a server wrote for the middle of a
line. `shorten` brings the name of a value to one line of at most twenty characters.
-/

set_option autoImplicit false

namespace HintLine.Label

open HintLine.Text.Blank (strip)

def dropColon : List Char → List Char
  | ':' :: rest => rest
  | s => s

def dropLastColon (s : List Char) : List Char := (dropColon s.reverse).reverse

/-- Without a colon in front, without one at the end, and then without blanks at either end. -/
def trimmed (s : List Char) : List Char := strip (dropLastColon (dropColon s))

def trim (label : String) : String := String.ofList (trimmed label.toList)

def maxLength : Nat := 20

def cutLength : Nat := 17

def ellipsis : List Char := ['.', '.', '.']

/-- Lines joined: a line feed and the spaces after it become one space. The flag says that such spaces are
being skipped. -/
def joinLines (skipping : Bool) : List Char → List Char
  | [] => []
  | c :: rest =>
    if c = '\n' then ' ' :: joinLines true rest
    else if skipping && c = ' ' then joinLines true rest
    else c :: joinLines false rest

/-- A value that is long or has several lines is cut; others stay as they are. -/
def shortened (s : List Char) : List Char :=
  if maxLength < s.length || s.contains '\n' then (joinLines false s).take cutLength ++ ellipsis else s

def shorten (value : String) : String := String.ofList (shortened value.toList)

end HintLine.Label
