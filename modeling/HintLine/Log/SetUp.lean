import HintLine.Act

/-!
Actions on the journal: it is set up, and records are logged, by this library or by another one.
-/

set_option autoImplicit false

namespace HintLine.Log

variable {σ : Type}

/-- Sets the journal up. A journal that writes to a file begins with the name of the file. -/
def setUp (s : Setup) : Act σ Unit := do
  Act.emit (.journal s)
  match Journal.ofSetup s with
  | .error e => Act.fail (.level e)
  | .ok _ =>
    match s.file with
    | some file => Act.log .info s!"Log file: {file.name}"
    | none => return

/-- The file of a name, if records can be written to it. -/
def LogFile.ofName (files : Files) (name : String) : Except Fault LogFile :=
  (FileName.resolve name).mapError Fault.logName |>.bind fun resolved =>
    ((files.writable (Path.ofString resolved)).mapError Fault.file).map (LogFile.mk name)

/-- Sets the journal up to write to the file of a name. Where that fails no sink is left. -/
def setUpFile (files : Files) (name : String) (level : LevelChoice) : Act σ Unit := do
  match LogFile.ofName files name with
  | .error e =>
    Act.emit (.journal .nothing)
    Act.fail e
  | .ok file => setUp ⟨some file, level, false⟩

/-- Sets the journal up anew, for a file if one is named, and else for the console if that is asked for. -/
def arrange (files : Files) (file : Option String) (level : LevelChoice) (console : Bool) : Act σ Unit :=
  match file with
  | some name => setUpFile files name level
  | none => setUp ⟨none, level, console⟩

/-- Logs a message at a level that is asked for. A journal without handlers does not ask which level it is. -/
def own (j : Journal) (level : LevelChoice) (message : String) : Act σ Unit := do
  if j.handlers.isEmpty then return
  Act.log (← Act.ofResult .level level.level) message

/-- What is logged by another library, at a level with the name that it has there. -/
def foreignAs (name : String) (level : Int) (template : String) (args : List Value) : Act σ Unit := do
  match ← Act.ofResult .template (Record.ofForeign? name level template args) with
  | some r => Act.emit (.foreign r)
  | none => return

def foreign (level : Int) (template : String) (args : List Value) : Act σ Unit :=
  foreignAs (Level.foreignName level) level template args

end HintLine.Log

namespace HintLine.Trace

/-- What a run writes to the sinks of a journal, in order. -/
def journalled (t : Trace) (j : Log.Journal) : List (Log.Sink × Log.Record) :=
  j.written (t.filterMap Effect.journalEvent?)

def writtenTo (t : Trace) (j : Log.Journal) (sink : Log.Sink) : List Log.Record :=
  (t.journalled j).filterMap fun e => if e.1 = sink then some e.2 else none

end HintLine.Trace
