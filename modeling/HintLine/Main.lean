import HintLine.Command.Run
import HintLine.Plugin.Samples

/-!
The program. It hands the words of the command line and the files that they name over to the library, and
writes down what comes back. It starts no server, so a command ends where it would need one.
-/

set_option autoImplicit false

namespace HintLine.Main

def noServer : Client.Server :=
  { Client.Server.willing false with
    launch := .error (.raised (.other "OSError") "no language server can be started from here") }

/-- The words that may name files: each word, and what follows the equals sign of an option. -/
def candidates (words : List String) : List String :=
  words ++ words.filterMap fun w => (Command.cut w).2

/-- What an open handle leads to. A directory can be opened but not read. -/
def readEntry (files : Files) (place : List String) (handle : IO.FS.Handle) : IO Files := do
  try
    let bytes ← handle.readBinToEnd
    return { files with files := (place, bytes.toList) :: files.files }
  catch _ => return { files with directories := place :: files.directories }

/-- Adds what stands at a path, if anything does. -/
def addEntry (files : Files) (name : String) : IO Files := do
  let place := ((Path.ofString name).absolute files.cwd).parts
  try readEntry files place (← IO.FS.Handle.mk name .read)
  catch _ => return files

def line (r : Log.Record) : String := s!"{r.level.label} | {r.message}"

def write (entry : Log.Sink × Log.Record) : IO Unit :=
  match entry.1 with
  | .console => IO.eprintln (line entry.2)
  | .file path => do
    let handle ← IO.FS.Handle.mk path .append
    handle.putStrLn (line entry.2)

end HintLine.Main

open HintLine in
def main (words : List String) : IO UInt32 := do
  let cwd := (Path.ofString (← IO.currentDir).toString).parts
  let files ← (Main.candidates words).foldlM Main.addEntry ⟨[], [], cwd⟩
  let run := Command.execute Plugin.Samples.catalogue Main.noServer none words files
  (← IO.getStdout).putStr run.trace.output
  (run.trace.journalled .initial).forM Main.write
  (← IO.getStderr).putStr run.trace.errors
  match run.outcome with
  | .ok _ => return (Command.exitCode run).toUInt32
  | .error e =>
    IO.eprintln e.message
    return (Command.exitCode run).toUInt32
