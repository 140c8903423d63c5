import HintLine.Command.Invocation
import HintLine.Command.Language
import HintLine.Log.SetUp
import HintLine.Session.Clients
import HintLine.Session.Hold
import HintLine.Session.Requests
import HintLine.Settings.Read
import HintLine.Text.Lines

/-!
Running a command: settings are read and logs set up, the file is opened in a session of its own, a server is
started and asked for hints, and the hints are shown. However that ends, once the server runs the buffer is
closed, the server stopped, and nothing is passed on to the user any more.
-/

set_option autoImplicit false

namespace HintLine.Command

open HintLine.Client (Server)
open HintLine.Plugin (Callable Catalogue)

/-- How a command ends, if it ends of itself. -/
inductive Ending where
  | success
  | refusal
  | misuse
  deriving DecidableEq, Repr

def Ending.code : Ending → Nat
  | success => 0
  | refusal => 1
  | misuse => 2

/-- The exit code of a run. A fault that nobody expected counts as a refusal. -/
def exitCode {σ : Type} (r : Run σ Ending) : Nat :=
  match r.outcome with
  | .ok ending => ending.code
  | .error _ => Ending.refusal.code

def clientId : Ident := .number 1

/-- Reads the settings and sets the logs up. Tracing logs everything, to the console if there is no file. -/
def prepare (cat : Catalogue) (inv : Invocation) : Act Files (Settings Callable) := do
  let settings ← Settings.read cat (← Act.get) (inv.config.map Path.ofString)
  let level := if inv.trace then Log.Level.trace else settings.logLevel
  let choice := Log.LevelChoice.name level.label
  Log.arrange (← Act.get) (inv.logFile.map fun f => (Path.ofString f).text) choice inv.trace
  return settings

/-- The text of a file; every line end is read as a line feed. -/
def readText (path : Path) : Act Files String := do
  let bytes ← Act.ofResult .file ((← Act.get).read path)
  match Text.Utf8.decode? bytes with
  | some text => return String.ofList (Text.Lines.unify text)
  | none => Act.fail .undecodable

def showLine (cursor : Cursor) : Act Session Unit := do
  Session.onEditor (Editor.setCursor cursor)
  Session.hold

def showNumbered (line : Int) : Act Session Unit := do
  Act.emit (.out s!"{line}: ")
  showLine ⟨line, 0⟩

def present (verb : Verb) (inv : Invocation) (buffer : Ident) : Act Session Unit := do
  match verb with
  | .show => showLine ⟨inv.line, inv.column⟩
  | .hints =>
    let bucket := ((← Act.get).collector.bucket? buffer).getD Table.empty
    Act.forEach bucket.lines showNumbered

/-- Waits for a server that gives every request the same answer. -/
def await (answer : Client.Answer) : Act Session Unit := do
  Session.wait (List.replicate (← Act.get).registry.pending answer)

/-- Asks the server for hints and shows them. Hints that do not come by themselves are asked for. -/
def converse (verb : Verb) (inv : Invocation) (server : Server) (buffer : Ident) : Act Session Unit := do
  Session.attach buffer clientId
  Session.attached buffer clientId
  if !(← Act.get).settings.autoEnable then Session.enable buffer
  await server.answer
  present verb inv buffer

def cleanUp (buffer : Ident) : Act Session Unit := do
  Session.closeBuffer buffer
  Session.stop
  Session.silence

def conduct (verb : Verb) (inv : Invocation) (server : Server) : Act Session Unit := do
  Session.announce
  let path := Path.ofString inv.file
  let text ← Session.onFiles (readText path)
  let b ← Session.openBuffer path text (languageOf inv.languageId path)
  let root := (path.absolute (← Act.get).files.cwd).parent
  Session.start clientId server inv.serverCommand root
  Act.ensuring (converse verb inv server b.ident) (cleanUp b.ident)

def inSession {α : Type} (start : Files → Session) (x : Act Session α) : Act Files α := fun files =>
  let r := x (start files)
  ⟨r.outcome, r.state.files, r.trace⟩

def work (cat : Catalogue) (server : Server) (colour : Option Bool) (settings : Settings Callable)
    (verb : Verb) (inv : Invocation) : Act Files Unit := do
  let parses ← findGrammar cat inv.grammar
  let area := Terminal.EchoArea.new .standard colour
  inSession (Session.new settings · area parses) (conduct verb inv server)

/-- Runs a command. Settings that are refused end it with a message. -/
def run (cat : Catalogue) (server : Server) (colour : Option Bool) (verb : Verb) (inv : Invocation) :
    Act Files Ending := do
  match ← Act.attempt (prepare cat inv) with
  | .ok settings =>
    work cat server colour settings verb inv
    return .success
  | .error (.refusal r) =>
    Act.emit (.err (Terminal.Plain.shown colour s!"Error: {r.message}\n"))
    return .refusal
  | .error e => Act.fail e

/-- Does what the words of a command line ask for. Without words the help is shown, as an error. -/
def execute (cat : Catalogue) (server : Server) (colour : Option Bool) (words : List String) :
    Act Files Ending := do
  let shown := Terminal.Plain.shown colour
  if words.isEmpty then
    Act.emit (.err (shown (help none)))
    return .misuse
  match request (← Act.get) words with
  | .ok (.help scope) =>
    Act.emit (.out (shown (help scope)))
    return .success
  | .ok (.run verb inv) => run cat server colour verb inv
  | .error (_, .broken e) => Act.fail (.file e)
  | .error (scope, e) =>
    Act.emit (.err (shown (e.report scope)))
    return .misuse

end HintLine.Command
