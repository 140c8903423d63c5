import HintLine.Command.Help
import HintLine.Files
import HintLine.Text.Quoted

/-!
What can be wrong with a command line.
-/

set_option autoImplicit false

namespace HintLine.Command

open HintLine.Text.Quoted (quoted)

/-- What a value is for: the file, or an option. -/
inductive Parameter where
  | operand
  | flag (f : Flag)
  deriving DecidableEq, Repr

def Parameter.name : Parameter → String
  | operand => operandName
  | flag f => f.spelling

/-- Why a command line is refused. A path may be broken, so that it cannot even be looked up. -/
inductive UsageError where
  | unknownOption (name : String) (similar : List String)
  | withoutValue (f : Flag)
  | needlessValue (f : Flag)
  | unknownCommand (name : String) (similar : List String)
  | missingCommand
  | missing (p : Parameter)
  | notInteger (f : Flag) (text : String)
  | noSuchFile (p : Parameter) (path : String)
  | isDirectory (p : Parameter) (path : String)
  | extra (operands : List String)
  | broken (e : FileError)
  deriving DecidableEq, Repr

namespace UsageError

/-- What is offered instead of a name that does not exist. -/
def suggestion : List String → String
  | [] => ""
  | [name] => s!" Did you mean {quoted name}?"
  | names =>
    let all := String.intercalate ", " ((names.mergeSort fun a b => a ≤ b).map quoted)
    s!" (Did you mean one of: {all}?)"

def message : UsageError → String
  | unknownOption name similar => s!"No such option {quoted name}.{suggestion similar}"
  | withoutValue f => s!"Option {quoted f.spelling} requires an argument."
  | needlessValue f => s!"Option {quoted f.spelling} does not take a value."
  | unknownCommand name similar => s!"No such command {quoted name}.{suggestion similar}"
  | missingCommand => "Missing command."
  | missing .operand => s!"Missing argument '{operandName}'."
  | missing (.flag f) => s!"Missing option '{f.spelling}'."
  | notInteger f text => s!"Invalid value for '{f.spelling}': {quoted text} is not a valid integer."
  | noSuchFile p path => s!"Invalid value for '{p.name}': File {quoted path} does not exist."
  | isDirectory p path => s!"Invalid value for '{p.name}': File {quoted path} is a directory."
  | extra operands =>
    let noun := if operands.length = 1 then "argument" else "arguments"
    let words := String.intercalate " " operands
    s!"Got unexpected extra {noun} ({words})"
  | broken e => e.message

/-- Whether the usage is shown with the error. It is not where an option is used in a wrong way. -/
def showsUsage : UsageError → Bool
  | withoutValue _ => false
  | needlessValue _ => false
  | _ => true

/-- The error as it is written, for the program or one of its commands. -/
def report (scope : Option Verb) (e : UsageError) : String :=
  let command := match scope with
    | none => program
    | some v => s!"{program} {v.name}"
  let intro := if e.showsUsage then
      s!"{usage scope}\nTry '{command} {Flag.help.spelling}' for help.\n\n"
    else ""
  intro ++ s!"Error: {e.message}\n"

end UsageError

end HintLine.Command
