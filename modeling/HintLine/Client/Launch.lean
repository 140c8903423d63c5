import HintLine.Act
import HintLine.Client.Server
import HintLine.Shell.Words

/-!
Starting the process of a language server. The process starts in a directory of its own; afterwards the
working directory is what it was before, also when the start fails.
-/

set_option autoImplicit false

namespace HintLine

/-- Runs an action in a directory and comes back in any case. -/
def Files.within {α : Type} (directory : Path) (x : Act Files α) : Act Files α := do
  let before := (← Act.get).cwd
  let place ← Act.ofResult .file ((← Act.get).enter directory)
  Act.modify fun fs => { fs with cwd := place }
  Act.ensuring x (Act.modify fun fs => { fs with cwd := before })

def Files.directory (fs : Files) : Path := ⟨.root, fs.cwd⟩

namespace Client

def name : String := "lsp-echohint"

def version : String := "v1"

/-- Starts the process of a server from a command line, in a directory. -/
def launch (server : Server) (command : String) (directory : Path) : Act Files Unit := do
  Act.emit (.call (.create name version))
  match ← Act.ofResult .words (Shell.Words.split command) with
  | [] => Act.fail .emptyCommand
  | argv =>
    Files.within directory do
      Act.emit (.call (.launch argv (← Act.get).directory.text))
      Act.ofExcept server.launch

end Client

end HintLine
