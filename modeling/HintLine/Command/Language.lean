import HintLine.Path
import HintLine.Plugin.Catalogue

/-!
Languages: what a file is written in, and how its grammar is found.
-/

set_option autoImplicit false

namespace HintLine.Command

def languages : List (String × String) :=
  [(".py", "python"), (".pyi", "python"), (".rs", "rust"), (".go", "go"), (".ts", "typescript"),
   (".tsx", "typescriptreact"), (".js", "javascript"), (".jsx", "javascriptreact"), (".lua", "lua"),
   (".c", "c"), (".cpp", "cpp")]

/-- The language of files of which nothing else is known. -/
def plainLanguage : String := "plaintext"

/-- The language of a file: the one that is given, unless it is empty, or else that of its suffix. -/
def languageOf (given : Option String) (path : Path) : String :=
  match given.filter (· ≠ "") with
  | some language => language
  | none => (languages.lookup path.suffix).getD plainLanguage

def grammarName : String := "toy"

/-- Finds the grammar that a source string names, if there is one; tells whether there is a grammar. -/
def findGrammar {σ : Type} (cat : Plugin.Catalogue) (source : Option String) : Act σ Bool := do
  match source with
  | none => return false
  | some source =>
    let member ← cat.member source
    match ← Act.ofExcept member.call with
    | .str name => if name = grammarName then return true else Act.fail (.call .notLanguage)
    | _ => Act.fail (.call .notLanguage)

end HintLine.Command
