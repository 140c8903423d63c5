import HintLine.Value

/-!
Values of a TOML file. Tables written in braces and tables written under a header are alike; an array of tables
is a kind of its own.
-/

set_option autoImplicit false

namespace HintLine.Toml

/-- Dates and times. -/
structure Date where
  year : Nat
  month : Nat
  day : Nat
  deriving DecidableEq, Repr

/-- A time of day, to the millionth of a second. -/
structure Time where
  hour : Nat
  minute : Nat
  second : Nat
  micro : Nat
  deriving DecidableEq, Repr

/-- The distance from universal time: none, or hours and minutes behind a sign, of which the minus sign leads
to the west. -/
inductive Zone where
  | universal
  | offset (sign : Char) (hours minutes : Nat)
  deriving DecidableEq, Repr

/-- A point in time, or a part of one. -/
inductive Moment where
  | date (d : Date)
  | time (t : Time)
  | both (d : Date) (t : Time) (zone : Option Zone)
  deriving DecidableEq, Repr

namespace Moment

def kind : Moment → String
  | date _ => "Date"
  | time _ => "Time"
  | both _ _ _ => "DateTime"

def dateNumbers (d : Date) : List Nat := [d.year, d.month, d.day]

/-- The numbers of a time; zeros at the end do not show, but minutes do. -/
def timeNumbers (t : Time) : List Nat :=
  if t.micro ≠ 0 then [t.hour, t.minute, t.second, t.micro]
  else if t.second ≠ 0 then [t.hour, t.minute, t.second]
  else [t.hour, t.minute]

def twoDigits (n : Nat) : String := if n < 10 then s!"0{n}" else toString n

/-- A distance in time, west of universal time as days back and seconds forth. -/
def distanceLiteral (west : Bool) (seconds : Nat) : String :=
  if seconds = 0 then "datetime.timedelta(0)"
  else if west then s!"datetime.timedelta(days=-1, seconds={86400 - seconds})"
  else s!"datetime.timedelta(seconds={seconds})"

def zoneLiteral : Zone → String
  | .universal => "datetime.timezone(datetime.timedelta(0), 'UTC')"
  | .offset sign hours minutes =>
    let distance := distanceLiteral (sign = '-') (3600 * hours + 60 * minutes)
    s!"datetime.timezone({distance}, '{sign}{twoDigits hours}:{twoDigits minutes}')"

def literal (m : Moment) : String :=
  let numbers (ns : List Nat) := String.intercalate ", " (ns.map toString)
  match m with
  | date d => s!"Date({numbers (dateNumbers d)})"
  | time t => s!"Time({numbers (timeNumbers t)})"
  | both d t none => s!"DateTime({numbers (dateNumbers d ++ timeNumbers t)})"
  | both d t (some z) => s!"DateTime({numbers (dateNumbers d ++ timeNumbers t)}, tzinfo={zoneLiteral z})"

end Moment

/-- A value of a TOML file. -/
inductive Item where
  | string (s : String)
  | integer (n : Int)
  | float (x : Float)
  | boolean (b : Bool)
  | moment (m : Moment)
  | array (items : List Item)
  | table (fields : List (String × Item))
  | tables (elements : List (List (String × Item)))
  deriving Inhabited

namespace Item

def kind : Item → String
  | string _ => "String"
  | integer _ => "Integer"
  | float _ => "Float"
  | boolean _ => "bool"
  | moment m => m.kind
  | array _ => "Array"
  | table _ => "dict"
  | tables _ => "list"

mutual

/-- A value without what is particular to the file format. -/
def value : Item → Value
  | string s => .str s
  | integer n => .int n
  | float x => .float x
  | boolean b => .bool b
  | moment m => .object m.kind m.literal
  | array items => .list (values items)
  | table fields => .dict (fieldValues fields)
  | tables elements => .list (elementValues elements)

def values : List Item → List Value
  | [] => []
  | i :: is => value i :: values is

def fieldValues : List (String × Item) → List (String × Value)
  | [] => []
  | (k, i) :: fs => (k, value i) :: fieldValues fs

def elementValues : List (List (String × Item)) → List Value
  | [] => []
  | fs :: es => .dict (fieldValues fs) :: elementValues es

end

end Item

end HintLine.Toml
