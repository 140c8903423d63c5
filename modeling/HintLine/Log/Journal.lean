import HintLine.Log.Level
import HintLine.Log.Template

/-!
Where log records go. A journal has handlers, each a sink with a threshold. Records of another library reach it through
relays of that library, each of which passes every record on. Before anything is set up, all but the most detailed
records go to the console, and nothing is passed on. Setting up removes every handler and every relay, puts one relay in
their place, and adds at most one handler, for a file or else for the console; so a record is written at most once, and
only to the latest sink.
-/

set_option autoImplicit false

namespace HintLine.Log

/-- A log record. -/
structure Record where
  level : Level
  message : String
  deriving DecidableEq, Repr

/-- Where records are written. -/
inductive Sink where
  | file (path : String)
  | console
  deriving DecidableEq, Repr

/-- A sink that takes records from a severity on. -/
structure Handler where
  sink : Sink
  threshold : Int
  deriving DecidableEq, Repr

def Handler.takes (h : Handler) (r : Record) : Bool := h.threshold ≤ r.level.severity

/-- The handlers that are in place, and how many relays of the other library. -/
structure Journal where
  handlers : List Handler
  relays : Nat
  deriving DecidableEq, Repr

/-- A file for records: how it was named, and its path. -/
structure LogFile where
  name : String
  path : String
  deriving DecidableEq, Repr

/-- What a set-up asks for. -/
structure Setup where
  file : Option LogFile
  level : LevelChoice
  console : Bool
  deriving DecidableEq, Repr

/-- The sink that is asked for: the file if there is one. -/
def Setup.sink? (s : Setup) : Option Sink :=
  match s.file with
  | some file => some (.file file.path)
  | none => if s.console then some .console else none

def Setup.nothing : Setup := ⟨none, .name Level.info.label, false⟩

namespace Journal

/-- Before any set-up: the console takes records from the level for debugging on. -/
def initial : Journal := ⟨[⟨.console, Level.debug.severity⟩], 0⟩

/-- What a set-up starts from: no handler, and one relay. -/
def silent : Journal := ⟨[], 1⟩

/-- The journal that a set-up makes. The level matters only if there is a sink. -/
def ofSetup (s : Setup) : Except LevelError Journal :=
  match s.sink? with
  | none => .ok silent
  | some sink => s.level.level.map fun l => ⟨[⟨sink, l.severity⟩], 1⟩

/-- The journal after a set-up that may have failed; it has lost its handlers in any case. -/
def after (s : Setup) : Journal :=
  match ofSetup s with
  | .ok j => j
  | .error _ => silent

def removeAll (j : Journal) : Journal := { j with handlers := [] }

/-- One relay is put in the place of those there are. -/
def intercept (j : Journal) : Journal := { j with relays := 1 }

def add (j : Journal) (h : Handler) : Journal := { j with handlers := j.handlers ++ [h] }

/-- A set-up, step by step. A level that is refused comes to light only when a handler is to be added. -/
def reset (j : Journal) (s : Setup) : Journal :=
  let j := j.removeAll.intercept
  match s.sink?, s.level.level with
  | some sink, .ok l => j.add ⟨sink, l.severity⟩
  | _, _ => j

/-- Nothing is left of what was in place before a set-up. -/
theorem reset_eq_after (j : Journal) (s : Setup) : j.reset s = after s := by
  unfold reset after ofSetup
  cases s.sink? with
  | none => rfl
  | some sink => cases s.level.level <;> rfl

def sinks (j : Journal) (r : Record) : List Sink :=
  (j.handlers.filter (·.takes r)).map Handler.sink

end Journal

/-- What happens to a journal: it is set up anew, given a record, or a record is logged by the other library. -/
inductive Journal.Event where
  | setUp (s : Setup)
  | record (r : Record)
  | foreign (r : Record)
  deriving DecidableEq, Repr

/-- What is written of a record that the journal is given. -/
def Journal.entries (j : Journal) (r : Record) : List (Sink × Record) := (j.sinks r).map (·, r)

/-- All that is written, in order, with the sink it is written to. Each relay gives the journal what the other library
logs. -/
def Journal.written (j : Journal) : List Journal.Event → List (Sink × Record)
  | [] => []
  | .setUp s :: rest => (j.reset s).written rest
  | .record r :: rest => j.entries r ++ j.written rest
  | .foreign r :: rest => (List.replicate j.relays r).flatMap j.entries ++ j.written rest

/-- The names that another logging library has for levels, unless it is told more. -/
def Level.foreignNames : List (Int × String) :=
  [(50, "CRITICAL"), (40, "ERROR"), (30, "WARNING"), (20, "INFO"), (10, "DEBUG"), (0, "NOTSET")]

def Level.foreignName (n : Int) : String := (foreignNames.lookup n).getD s!"Level {n}"

/-- The level of a record that another logging library made: the one of the name that its level has there, if there is
one of that name, and else its number. -/
def Level.ofForeign (name : String) (n : Int) : Level := (ofName? name).getD (number n)

/-- The record of another library's message; a level that is not positive makes none. -/
def Record.ofForeign? (name : String) (level : Int) (template : String) (args : List Value) :
    Except Template.Failure (Option Record) :=
  if level ≤ 0 then .ok none
  else (Template.message template args).map fun m => some ⟨.ofForeign name level, m⟩

end HintLine.Log
