import HintLine.Command.Options
import HintLine.Text.Pieces

/-!
The help texts. Options stand in two columns, the second filled with words up to a width; a word is never
broken.
-/

set_option autoImplicit false

namespace HintLine.Command

def pageWidth : Nat := 78

def columnLimit : Nat := 30

def columnGap : Nat := 2

def blanks (n : Nat) : String := "".pushn ' ' n

/-- Lines filled with words: a word goes on the current line if it fits there. -/
def filled (width : Nat) (current : String) : List String → List String
  | [] => [current]
  | w :: ws =>
    if current.length + 1 + w.length ≤ width then filled width (current ++ " " ++ w) ws
    else current :: filled width w ws

/-- A text as lines of at most a width, as far as its words allow it. -/
def wrapped (width : Nat) (text : String) : List String :=
  match (Text.pieces ' ' text.toList).map String.ofList with
  | [] => []
  | w :: ws => filled width w ws

/-- A row of two columns, indented. Without a second column nothing follows the first. -/
def row (firstWidth : Nat) (cells : String × String) : String :=
  let (first, second) := cells
  let start := blanks 2 ++ first
  if second = "" then start ++ "\n"
  else
    let gap := if first.length + columnGap ≤ firstWidth then blanks (firstWidth - first.length)
      else "\n" ++ blanks (firstWidth + 2)
    let lines := wrapped (max (pageWidth - firstWidth - 2) 10) second
    start ++ gap ++ String.intercalate ("\n" ++ blanks (firstWidth + 2)) lines ++ "\n"

def table (heading : String) (rows : List (String × String)) : String :=
  let widest := (rows.map fun r => r.1.length).foldl max 0
  heading ++ ":\n" ++ String.join (rows.map (row (min widest columnLimit + columnGap)))

def Flag.cells (f : Flag) : String × String :=
  let first := match f.takes? with
    | some metavariable => f.spelling ++ " " ++ metavariable
    | none => f.spelling
  let required := if f.isRequired then "  [required]" else ""
  (first, f.about ++ required)

/-- How the program, or one of its commands, is used. -/
def usage : Option Verb → String
  | none => s!"Usage: {program} [OPTIONS] COMMAND [ARGS]..."
  | some v => s!"Usage: {program} {v.name} [OPTIONS] {operandName}"

/-- The help of the program, or of one of its commands. -/
def help (scope : Option Verb) : String :=
  match scope with
  | none =>
    usage none ++ "\n\n" ++ table "Options" (programFlags.map Flag.cells) ++ "\n" ++
      table "Commands" (Verb.all.map fun v => (v.name, ""))
  | some v => usage (some v) ++ "\n\n" ++ table "Options" (v.flags.map Flag.cells)

end HintLine.Command
