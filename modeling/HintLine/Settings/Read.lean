import HintLine.Plugin.Catalogue
import HintLine.Settings.Basic
import HintLine.Toml.Document

/-!
Settings from a file. They stand in the table `tool.echohint` of a TOML file. The display is named there by a
source string, and taken from the modules that there are.
-/

set_option autoImplicit false

namespace HintLine.Settings

open HintLine.Plugin (Callable Catalogue)

variable {σ : Type}

def Given.ofItem (i : Toml.Item) : Given := ⟨i.value, i.kind, none⟩

/-- The fields of the section, if there is one. -/
def section? (document : List (String × Toml.Item)) : Except Fault (Option Fields) :=
  match document.lookup "tool" with
  | none => .ok none
  | some (.table tool) =>
    match tool.lookup "echohint" with
    | none => .ok none
    | some (.table fields) => .ok (some (fields.map fun f => (f.1, Given.ofItem f.2)))
    | some i => .error (.sectionShape i.kind)
  | some i => .error (.toolShape i.kind)

def readNamed (files : Files) (path : Path) : Act σ (Settings String) := do
  Act.log .trace s!"Read config in {path.text}"
  let bytes ← Act.ofResult .file (files.read path)
  match Toml.ofBytes? bytes with
  | none => Act.fail .malformed
  | some document =>
    match ← Act.ofExcept (section? document) with
    | none =>
      Act.log .trace s!"No echohint config in {path.text}, use defaults"
      return standard
    | some fields => Act.ofResult (.refusal <| .invalid path.text ·) (ofFile fields)

/-- The display of a name. A module or a member that is not there refuses the settings. -/
def findDisplay (cat : Catalogue) (name : String) : Act σ Callable := do
  match ← Act.attempt (cat.member name) with
  | .ok (.callable c) => return c
  | .ok _ => Act.fail (.refusal (.displayNotCallable name))
  | .error (.missing cause) => Act.fail (.refusal (.displayNotFound name cause))
  | .error e => Act.fail e

def Given.ofCallable (c : Callable) : Given := ⟨.object c.name c.name, "function", some c⟩

/-- Settings as fields, with the display that was found for them. -/
def given (named : Settings String) (display : Option Callable) : Fields :=
  [("auto_enable", .ofValue (.bool named.autoEnable)),
   ("display", match display with
    | some c => .ofCallable c
    | none => .ofValue .null),
   ("notify_errors", .ofValue (.bool named.notifyErrors)),
   ("log_level", .ofValue (.str named.logLevel.label))]

/-- Reads the settings of a file and finds their display. With it in place of its name they are checked once more. -/
def read (cat : Catalogue) (files : Files) (path : Option Path) : Act σ (Settings Callable) := do
  match path with
  | none => return standard
  | some path =>
    let named ← readNamed files path
    let display ←
      match named.display with
      | none => pure none
      | some name => some <$> findDisplay cat name
    Act.ofResult .report (ofGiven (named.given display))

end HintLine.Settings
