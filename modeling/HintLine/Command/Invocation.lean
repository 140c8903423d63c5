import HintLine.Command.Usage
import HintLine.Files
import HintLine.Text.Digits
import HintLine.Text.Similar

/-!
Command lines. Words that start with a dash are options, up to a double dash; the others are operands. First
all words are read, then the parameters are checked: options in the order in which they were given, then the
file, then what was not given.
-/

set_option autoImplicit false

namespace HintLine.Command

/-- A command line whose words were read: the options given, with their values, and the operands. -/
structure Reading where
  given : List (Flag × String)
  operands : List String
  deriving DecidableEq, Repr

namespace Reading

def withFlag (f : Flag) (value : String) (r : Reading) : Reading := { r with given := (f, value) :: r.given }

def withOperand (w : String) (r : Reading) : Reading := { r with operands := w :: r.operands }

/-- The value of an option; if it was given more than once, the last one. -/
def value? (r : Reading) (f : Flag) : Option String := r.given.reverse.lookup f

def has (r : Reading) (f : Flag) : Bool := (r.value? f).isSome

end Reading

/-- Whether a word is an option. A single dash is none. -/
def isOption (w : String) : Bool :=
  match w.toList with
  | '-' :: _ :: _ => true
  | _ => false

/-- A word before its first equals sign, and what follows that sign. -/
def cut (w : String) : String × Option String :=
  let s := w.toList
  (String.ofList (s.takeWhile (· ≠ '=')),
    match s.dropWhile (· ≠ '=') with
    | _ :: rest => some (String.ofList rest)
    | [] => none)

/-- Why a word is refused that is no option. A word with a single dash counts as a list of letters, of which
the first is refused; to one with two dashes the options are offered that are most like it. -/
def unknown (flags : List Flag) (w : String) : UsageError :=
  match w.toList with
  | '-' :: '-' :: _ =>
    let name := (cut w).1
    .unknownOption name (Text.Similar.closest name (flags.map Flag.spelling))
  | s => .unknownOption (String.ofList (s.take 2)) []

/-- Reads words, with some options known. Unless operands may stand before options, the first operand ends
the reading of options. -/
def read (flags : List Flag) (mixed : Bool) : List String → Except UsageError Reading
  | [] => .ok ⟨[], []⟩
  | w :: rest =>
    if w = "--" then .ok ⟨[], rest⟩
    else if isOption w then
      let (name, attached) := cut w
      match flags.find? fun f => f.spelling = name with
      | none => .error (unknown flags w)
      | some f =>
        match f.takes?, attached, rest with
        | none, none, rest => (read flags mixed rest).map (·.withFlag f "")
        | none, some _, _ => .error (.needlessValue f)
        | some _, some v, rest => (read flags mixed rest).map (·.withFlag f v)
        | some _, none, v :: rest => (read flags mixed rest).map (·.withFlag f v)
        | some _, none, [] => .error (.withoutValue f)
    else if mixed then (read flags mixed rest).map (·.withOperand w)
    else .ok ⟨[], w :: rest⟩

/-- The parameters of a command. The line and the column count only where one line is to be shown. -/
structure Invocation where
  file : String
  serverCommand : String
  languageId : Option String
  config : Option String
  grammar : Option String
  logFile : Option String
  trace : Bool
  line : Int
  column : Int
  deriving DecidableEq, Repr

def Invocation.blank : Invocation := ⟨"", "", none, none, none, none, false, 0, 0⟩

def existing (files : Files) (p : Parameter) (path : String) : Except UsageError String :=
  if Files.isEndless path then .error (.broken .endless)
  else
    match files.look? path with
    | none => .error (.noSuchFile p path)
    | some .directory => .error (.isDirectory p path)
    | some (.file _) => .ok path

def integer (f : Flag) (text : String) : Except UsageError Int :=
  match Text.Digits.parse? 10 text.toList with
  | some n => .ok n
  | none => .error (.notInteger f text)

namespace Invocation

def withValue (files : Files) (inv : Invocation) (f : Flag) (v : String) : Except UsageError Invocation :=
  match f with
  | .serverCommand => .ok { inv with serverCommand := v }
  | .languageId => .ok { inv with languageId := some v }
  | .config => (existing files (.flag f) v).map fun path => { inv with config := some path }
  | .grammar => .ok { inv with grammar := some v }
  | .logFile => .ok { inv with logFile := some v }
  | .trace => .ok { inv with trace := true }
  | .line => (integer f v).map fun line => { inv with line }
  | .column => (integer f v).map fun column => { inv with column }
  | .help => .ok inv

/-- Takes in a parameter of a command line that was read. -/
def withParameter (files : Files) (r : Reading) (inv : Invocation) :
    Parameter → Except UsageError Invocation
  | .operand =>
    match r.operands with
    | [] => .error (.missing .operand)
    | path :: _ => (existing files .operand path).map fun file => { inv with file }
  | .flag f =>
    match r.value? f with
    | some v => inv.withValue files f v
    | none => if f.isRequired then .error (.missing (.flag f)) else .ok inv

end Invocation

/-- The parameters in the order in which they are checked. One that comes twice is found as it was before. -/
def Reading.order (r : Reading) (flags : List Flag) : List Parameter :=
  r.given.map (fun e => .flag e.1) ++ .operand :: flags.map .flag

/-- The command that words stand for, once they were read. -/
def Reading.invocation (r : Reading) (files : Files) (flags : List Flag) : Except UsageError Invocation := do
  let inv ← (r.order flags).foldlM (Invocation.withParameter files r) .blank
  match r.operands.drop 1 with
  | [] => return inv
  | more => throw (.extra more)

/-- What a command line asks for. -/
inductive Request where
  | help (scope : Option Verb)
  | run (verb : Verb) (inv : Invocation)
  deriving DecidableEq, Repr

def requestOf (files : Files) (verb : Verb) (words : List String) : Except UsageError Request := do
  let r ← read verb.flags true words
  if r.has .help then return .help (some verb)
  return .run verb (← r.invocation files verb.flags)

/-- What the words of a command line ask for; an error comes with the command that it belongs to. -/
def request (files : Files) (words : List String) : Except (Option Verb × UsageError) Request :=
  match read programFlags false words with
  | .error e => .error (none, e)
  | .ok r =>
    if r.has .help then .ok (.help none)
    else
      match r.operands with
      | [] => .error (none, .missingCommand)
      | name :: rest =>
        match Verb.ofName? name with
        | some verb => (requestOf files verb rest).mapError fun e => (some verb, e)
        | none =>
          -- a word that is no command may still be an option after a double dash
          match read programFlags false (name :: rest) with
          | .error e => .error (none, e)
          | .ok r =>
            if r.has .help then .ok (.help none)
            else .error (none, .unknownCommand name (Text.Similar.closest name (Verb.all.map Verb.name)))

end HintLine.Command
