/-!
The commands and the options that they take. Each option says how it is spelt, what it takes, and what it is for.
-/

set_option autoImplicit false

namespace HintLine.Command

def program : String := "echohint"

/-- The commands: the hints of all lines, or those of one line. -/
inductive Verb where
  | hints
  | show
  deriving DecidableEq, Repr

namespace Verb

/-- The commands, by name. -/
def all : List Verb := [.hints, .show]

def name : Verb → String
  | hints => "hints"
  | «show» => "show"

def ofName? (name : String) : Option Verb := all.find? fun v => v.name = name

end Verb

/-- The options. -/
inductive Flag where
  | serverCommand
  | languageId
  | config
  | grammar
  | logFile
  | trace
  | line
  | column
  | help
  deriving DecidableEq, Repr

namespace Flag

def spelling : Flag → String
  | serverCommand => "--server-cmd"
  | languageId => "--language-id"
  | config => "--config"
  | grammar => "--tree-sitter-language"
  | logFile => "--log-file"
  | trace => "--trace"
  | line => "--line"
  | column => "--column"
  | help => "--help"

/-- What an option takes; some take nothing. -/
def takes? : Flag → Option String
  | serverCommand => some "TEXT"
  | languageId => some "TEXT"
  | config => some "FILE"
  | grammar => some "TEXT"
  | logFile => some "PATH"
  | trace => none
  | line => some "INTEGER"
  | column => some "INTEGER"
  | help => none

def about : Flag → String
  | serverCommand => "Language server command"
  | config => "pyproject.toml with [tool.echohint] section"
  | grammar => "Function returning tree-sitter language, e.g. tree_sitter_python.language"
  | line => "1-based line number"
  | column => "0-based cursor column"
  | help => "Show this message and exit."
  | _ => ""

def isRequired : Flag → Bool
  | serverCommand => true
  | line => true
  | _ => false

end Flag

def commonFlags : List Flag := [.serverCommand, .languageId, .config, .grammar, .logFile, .trace]

def Verb.flags : Verb → List Flag
  | hints => commonFlags ++ [.help]
  | «show» => commonFlags ++ [.line, .column, .help]

def programFlags : List Flag := [.help]

/-- What the file is called where it is missing or wrong. -/
def operandName : String := "FILE_PATH"

end HintLine.Command
