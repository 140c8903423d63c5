/-!
Messages for the user, and how grave they are.
-/

set_option autoImplicit false

namespace HintLine.Message

/-- How grave a message is. -/
inductive Kind where
  | error
  | warning
  | info
  | log
  | debug
  deriving DecidableEq, Repr

/-- All kinds, the gravest first. -/
def Kind.all : List Kind := [.error, .warning, .info, .log, .debug]

namespace Kind

def name : Kind → String
  | error => "ERROR"
  | warning => "WARNING"
  | info => "INFO"
  | log => "LOG"
  | debug => "DEBUG"

def number : Kind → Nat
  | error => 1
  | warning => 2
  | info => 3
  | log => 4
  | debug => 5

def ofName? (name : String) : Option Kind := all.find? fun k => k.name = name

end Kind

end HintLine.Message
