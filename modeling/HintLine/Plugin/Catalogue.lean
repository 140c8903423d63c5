import HintLine.Act
import HintLine.Plugin.Callable
import HintLine.Text.Pieces

/-!
Modules that members can be taken from. A source string names a member by the dotted path of its module and
its own name. The path is imported from left to right: each module on the way has to be there, has to be a
package if anything follows, and may give up while it is imported.
-/

set_option autoImplicit false

namespace HintLine.Plugin

/-- A member of a module. -/
inductive Member where
  | value (v : Value)
  | callable (c : Callable)
  | module (name : String)

/-- A module, by its full name. -/
structure Module where
  name : String
  isPackage : Bool
  members : List (String × Member)
  failure : Option Fault

abbrev Catalogue := List Module

namespace Catalogue

def module? (cat : Catalogue) (name : String) : Option Module := cat.find? fun m => m.name = name

/-- Imports the next modules of a path, one for each segment, below the module `parent`. -/
def importBelow (cat : Catalogue) (parent : Module) : List String → Except Fault Module
  | [] => .ok parent
  | segment :: rest =>
    let name := parent.name ++ "." ++ segment
    if !parent.isPackage then .error (.missing (.notPackage name parent.name))
    else
      match cat.module? name with
      | none => .error (.missing (.noModule name))
      | some m =>
        match m.failure with
        | some e => .error e
        | none => importBelow cat m rest

def importPath (cat : Catalogue) : List String → Except Fault Module
  | [] => .error (.missing (.noModule ""))
  | segment :: rest =>
    match cat.module? segment with
    | none => .error (.missing (.noModule segment))
    | some m =>
      match m.failure with
      | some e => .error e
      | none => importBelow cat m rest

def segments (source : String) : List String := (Text.pieces '.' source.toList).map String.ofList

def member {σ : Type} (cat : Catalogue) (source : String) : Act σ Member := do
  let path := (segments source).dropLast
  let name := (segments source).getLast?.getD ""
  let text := String.intercalate "." path
  if text = "" then Act.fail (.missing (.noModulePath source))
  else if path.head? = some "" then Act.fail (.relativeSource text)
  else
    let m ← Act.ofExcept (cat.importPath path)
    match m.members.lookup name with
    | some member => return member
    | none =>
      Act.log .error s!"Member {name} not found in module {text}"
      Act.fail (.missing (.noMember name text))

end Catalogue

def Member.call : Member → Except Fault Value
  | callable c => c.alone
  | value v => .error (.call (.notCallable v.kind))
  | module _ => .error (.call (.notCallable "module"))

end HintLine.Plugin
