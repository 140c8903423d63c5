import HintLine.Log.Level
import HintLine.Plugin.Callable
import HintLine.Settings.Report

/-!
Settings and the fields they are read from. Each field has a rule that accepts a value or says what is wrong
with it; fields that are not given have a default, and fields that are not known are passed over.
-/

set_option autoImplicit false

namespace HintLine

/-- What can be set: whether hints are asked for as soon as a server can give them, how lines are displayed,
whether errors are reported to the user, and from which level on records are logged. -/
structure Settings (δ : Type) where
  autoEnable : Bool
  display : Option δ
  notifyErrors : Bool
  logLevel : Log.Level

namespace Settings

open HintLine.Plugin (Callable)

def standard {δ : Type} : Settings δ := ⟨true, none, false, .info⟩

/-- A value given for a field, with the name of its kind; it may be something that can be called. -/
structure Given where
  value : Value
  kind : String
  callable : Option Callable

def Given.ofValue (v : Value) : Given := ⟨v, v.kind, none⟩

/-- A given value written down, or a word for its kind if it is too long for that. -/
def Given.literal (g : Given) : String :=
  if g.value.isWritable then g.value.literal else s!"<unprintable {g.kind} object>"

abbrev Fields := List (String × Given)

def yesWords : List String := ["true", "t", "yes", "y", "on", "1"]

def noWords : List String := ["false", "f", "no", "n", "off", "0"]

/-- A word in small letters, as far as ASCII goes. -/
def lowered (s : String) : String := String.ofList (s.toList.map Char.toLower)

/-- Whether a number fits into sixty-four bits with a sign. -/
def isWord (n : Int) : Bool := -9223372036854775808 ≤ n && n < 9223372036854775808

/-- Whether a number is whole and not too great to be read as one. -/
def isWhole (x : Float) : Bool := x.floor == x && x.abs < 9223372036854775808.0

/-- The rule for switches: truth values, the words for yes and no, and the numbers one and zero. -/
def switch (g : Given) : Except Defect Bool :=
  match g.value with
  | .bool b => .ok b
  | .str s =>
    if yesWords.contains (lowered s) then .ok true
    else if noWords.contains (lowered s) then .ok false
    else .error .boolParsing
  | .int n =>
    if n = 0 then .ok false
    else if n = 1 then .ok true
    else if isWord n then .error .boolParsing
    else .error .boolType
  | .float x =>
    if x == 0 then .ok false
    else if x == 1 then .ok true
    else if isWhole x then .error .boolParsing
    else .error .boolType
  | _ => .error .boolType

/-- The rule for levels: the name of one. -/
def level (g : Given) : Except Defect Log.Level :=
  let defect := Defect.literal (Log.Level.all.map Log.Level.label)
  match g.value with
  | .str s =>
    match Log.Level.ofName? s with
    | some l => .ok l
    | none => .error defect
  | _ => .error defect

/-- The rule for displays that are named: a text, or nothing. -/
def displayName (g : Given) : Except Defect (Option String) :=
  match g.value with
  | .null => .ok none
  | .str s => .ok (some s)
  | _ => .error .stringType

/-- The rule for displays that are at hand: something that can be called, or nothing. -/
def displayFunction (g : Given) : Except Defect (Option Callable) :=
  match g.callable, g.value with
  | some c, _ => .ok (some c)
  | none, .null => .ok none
  | none, _ => .error .callableType

/-- The field of a name by its rule; the default if it is not given. -/
def field {α : Type} (fields : Fields) (name : String) (rule : Given → Except Defect α) (default : α) :
    Except Problem α :=
  match fields.lookup name with
  | none => .ok default
  | some g =>
    match rule g with
    | .ok a => .ok a
    | .error d => .error ⟨name, d, g.literal, g.kind⟩

def problem? {α : Type} : Except Problem α → Option Problem
  | .ok _ => none
  | .error p => some p

/-- Settings from fields, with a rule for the display, or all that is wrong with them. -/
def ofFields {δ : Type} (model : String) (displayRule : Given → Except Defect (Option δ)) (fields : Fields) :
    Except Report (Settings δ) :=
  let autoEnable := field fields "auto_enable" switch true
  let display := field fields "display" displayRule none
  let notifyErrors := field fields "notify_errors" switch false
  let logLevel := field fields "log_level" level .info
  match autoEnable, display, notifyErrors, logLevel with
  | .ok a, .ok d, .ok n, .ok l => .ok ⟨a, d, n, l⟩
  | a, d, n, l => .error ⟨model, [problem? a, problem? d, problem? n, problem? l].filterMap id⟩

def ofGiven (fields : Fields) : Except Report (Settings Callable) :=
  ofFields "EchoHintConfig" displayFunction fields

def ofFile (fields : Fields) : Except Report (Settings String) :=
  ofFields "EchoHintTomlConfig" displayName fields

end Settings

end HintLine
