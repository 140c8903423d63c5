/-!
Levels of log records: seven with a name, and any other number. A threshold may be asked for by name or by
number; a name that is none of the seven and a negative number are refused.
-/

set_option autoImplicit false

namespace HintLine.Log

/-- A level. -/
inductive Level where
  | trace
  | debug
  | info
  | success
  | warning
  | error
  | critical
  | number (n : Int)
  deriving DecidableEq, Repr

/-- The levels that have a name, from the least severe on. -/
def Level.all : List Level := [.trace, .debug, .info, .success, .warning, .error, .critical]

namespace Level

def severity : Level → Int
  | trace => 5
  | debug => 10
  | info => 20
  | success => 25
  | warning => 30
  | error => 40
  | critical => 50
  | number n => n

def label : Level → String
  | trace => "TRACE"
  | debug => "DEBUG"
  | info => "INFO"
  | success => "SUCCESS"
  | warning => "WARNING"
  | error => "ERROR"
  | critical => "CRITICAL"
  | number n => s!"Level {n}"

def ofName? (name : String) : Option Level := all.find? fun l => l.label = name

end Level

/-- How a level is asked for. -/
inductive LevelChoice where
  | name (s : String)
  | number (n : Int)
  deriving DecidableEq, Repr

/-- Why a level is refused. -/
inductive LevelError where
  | unknown (name : String)
  | negative (n : Int)
  deriving DecidableEq, Repr

def LevelError.message : LevelError → String
  | unknown name => s!"Level '{name}' does not exist"
  | negative n => s!"Invalid level value, it should be a positive integer, not: {n}"

def LevelChoice.level : LevelChoice → Except LevelError Level
  | name s =>
    match Level.ofName? s with
    | some l => .ok l
    | none => .error (.unknown s)
  | number n => if n < 0 then .error (.negative n) else .ok (.number n)

end HintLine.Log
