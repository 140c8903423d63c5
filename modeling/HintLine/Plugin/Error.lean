import HintLine.Text.Quoted

/-!
What can go wrong with plug-ins: a source string may name no member, and a member may not take the arguments
it is called with.
-/

set_option autoImplicit false

namespace HintLine.Plugin

open HintLine.Text.Quoted (quoted)

/-- Why a source string names no member. -/
inductive ImportError where
  | noModulePath (source : String)
  | noModule (name : String)
  | notPackage (name parent : String)
  | noMember (member module : String)
  deriving DecidableEq, Repr

def ImportError.message : ImportError → String
  | noModulePath source => s!"Source '{source}' has no module path"
  | noModule name => s!"No module named {quoted name}"
  | notPackage name parent => s!"No module named {quoted name}; {quoted parent} is not a package"
  | noMember member module => s!"Member {member} not found in module {module}"

/-- Why a call is refused. -/
inductive CallError where
  | tooMany (name : String) (takes given : Nat)
  | missing (name : String) (parameters : List String)
  | noArguments (name : String)
  | notCallable (kind : String)
  | notLanguage
  deriving DecidableEq, Repr

/-- Names in quotes, the last two joined by a word. -/
def enumeration : List String → String
  | [] => ""
  | [a] => s!"'{a}'"
  | [a, b] => s!"'{a}' and '{b}'"
  | names =>
    let quotedNames := names.map fun n => s!"'{n}'"
    String.intercalate ", " quotedNames.dropLast ++ ", and " ++ quotedNames.getLast?.getD ""

def plural (n : Nat) : String := if n = 1 then "" else "s"

def CallError.message : CallError → String
  | tooMany name takes given =>
    let verb := if given = 1 then "was" else "were"
    s!"{name}() takes {takes} positional argument{plural takes} but {given} {verb} given"
  | missing name parameters =>
    let n := parameters.length
    s!"{name}() missing {n} required positional argument{plural n}: {enumeration parameters}"
  | noArguments name => s!"{name}() takes no arguments"
  | notCallable kind => s!"'{kind}' object is not callable"
  | notLanguage => "language must be toy"

end HintLine.Plugin
