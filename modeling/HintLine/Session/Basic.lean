import HintLine.Client.Registry
import HintLine.Collector
import HintLine.Echo.Display
import HintLine.Settings.Basic
import HintLine.Terminal.EchoArea
import HintLine.Tree.Brackets

/-!
A session: an editor, the clients, the collector that keeps what the clients' servers answer, and the echo area
that shows it. Opening a file and closing a buffer keep all of them in step.
-/

set_option autoImplicit false

namespace HintLine

open HintLine.Plugin (Callable)
open HintLine.Terminal (EchoArea)

/-- How the parts of a session are joined: whether the hints and the tree of a buffer go when it is closed, and
whether messages for the user reach the echo area. -/
structure Wiring where
  forgets : Bool
  reports : Bool
  deriving DecidableEq, Repr

/-- All that a session consists of. There are trees only if a grammar was given. -/
structure Session where
  settings : Settings Callable
  wiring : Wiring
  files : Files
  editor : Editor
  registry : Client.Registry
  collector : Collector
  area : EchoArea
  forest : Option Forest

namespace Session

/-- A session in which everything is joined, without buffers and clients. -/
def new (settings : Settings Callable) (files : Files) (area : EchoArea) (parses : Bool) : Session where
  settings := settings
  wiring := ⟨true, true⟩
  files := files
  editor := .new
  registry := .new
  collector := .new
  area := area
  forest := if parses then some Table.empty else none

def unjoined (files : Files) (area : EchoArea) (parses : Bool) : Session :=
  { new .standard files area parses with wiring := ⟨false, false⟩ }

def outlet (s : Session) : Option Message.Outlet := if s.wiring.reports then some s.area.send else none

def surroundings (s : Session) : Collector.Surroundings where
  isOpen := s.editor.isOpen
  supports := s.registry.supports
  notifies := s.settings.notifyErrors
  outlet := s.outlet

def display (s : Session) : Echo.Display :=
  match s.settings.display with
  | some f => .custom f
  | none => .standard

def scene (s : Session) : Echo.Scene Session :=
  ⟨s.editor.current, s.editor.cursor.column, s.forest.map Forest.nodeText⟩

def onEditor {α : Type} (x : Act Editor α) : Act Session α :=
  Act.zoom editor (fun editor s => { s with editor }) x

def onRegistry {α : Type} (x : Act Client.Registry α) : Act Session α :=
  Act.zoom registry (fun registry s => { s with registry }) x

def onCollector {α : Type} (x : Act Collector α) : Act Session α :=
  Act.zoom collector (fun collector s => { s with collector }) x

def onArea {α : Type} (x : Act EchoArea α) : Act Session α :=
  Act.zoom area (fun area s => { s with area }) x

def onFiles {α : Type} (x : Act Files α) : Act Session α :=
  Act.zoom files (fun files s => { s with files }) x

def announce : Act Session Unit := do
  let s ← Act.get
  Act.log .trace s!"Echo hints set up, auto enable: {(Value.bool s.settings.autoEnable).text}"

/-- Parses a text as that of a buffer, if there is a grammar. -/
def parse (buffer : Ident) (text : String) : Act Session Unit :=
  Act.modify fun s => { s with forest := s.forest.map (·.grow buffer text) }

def openBuffer (path : Path) (text languageId : String) : Act Session Buffer := do
  let b ← onEditor (Editor.openBuffer (← Act.get).files.cwd path text languageId)
  parse b.ident text
  return b

def forget (buffer : Ident) : Act Session Unit :=
  onCollector (Act.modify (Collector.forget · buffer))

def fell (buffer : Ident) : Act Session Unit :=
  Act.modify fun s => { s with forest := s.forest.map (·.fell buffer) }

/-- Closes a buffer; its hints and its tree go too, if they are to. -/
def closeBuffer (buffer : Ident) : Act Session Unit := do
  onEditor (Editor.closeBuffer buffer)
  if (← Act.get).wiring.forgets then
    forget buffer
    fell buffer

def silence : Act Session Unit :=
  Act.modify fun s => { s with wiring := { s.wiring with reports := false } }

end Session

end HintLine
