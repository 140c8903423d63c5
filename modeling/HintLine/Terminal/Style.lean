import HintLine.Value

/-!
Styles of text on a terminal. A style is a list of named arguments; each argument that is set gives one
control sequence in front of the text, in a fixed order, and unless it says otherwise the text is followed by
the sequence that resets everything.
-/

set_option autoImplicit false

namespace HintLine.Terminal

/-- Why a style cannot be applied. -/
inductive StyleError where
  | unknownColour (value : String)
  | unknownArgument (name : String)
  | textTwice
  | unhashable (kind : String)
  deriving DecidableEq, Repr

def StyleError.message : StyleError → String
  | unknownColour value => s!"Unknown color {value}"
  | unknownArgument name => s!"style() got an unexpected keyword argument '{name}'"
  | textTwice => "style() got multiple values for argument 'text'"
  | unhashable kind => s!"unhashable type: '{kind}'"

abbrev Style := List (String × Value)

def sequence (code : String) : String := "\x1b[" ++ code ++ "m"

def colourNames : List String := ["black", "red", "green", "yellow", "blue", "magenta", "cyan", "white"]

def namedColour? (name : String) : Option Nat :=
  if name = "reset" then some 39
  else
    match colourNames.idxOf? name with
    | some i => some (30 + i)
    | none => (colourNames.idxOf? (String.ofList (name.toList.drop 7))).bind fun i =>
      if name.startsWith "bright_" then some (90 + i) else none

/-- A whole number that a colour channel or a palette may hold. -/
def byte? : Value → Option Nat
  | .int n => if 0 ≤ n ∧ n ≤ 255 then some n.toNat else none
  | _ => none

/-- The code of a colour; `shift` is what a background adds to the code of a foreground. -/
def colourCode? (shift : Nat) : Value → Option String
  | .str name => (namedColour? name).map fun n => toString (n + shift)
  | .int n => (byte? (.int n)).map fun b => s!"{38 + shift};5;{b}"
  | .list [r, g, b] =>
    match byte? r, byte? g, byte? b with
    | some r, some g, some b => some s!"{38 + shift};2;{r};{g};{b}"
    | _, _, _ => none
  | _ => none

/-- The sequence of a colour argument; none if the argument is not set. -/
def colourSequence (shift : Nat) : Value → Except StyleError String
  | .null => .ok ""
  | v =>
    match colourCode? shift v with
    | some code => .ok (sequence code)
    | none => .error (.unknownColour v.literal)

/-- Arguments that switch something on or off, with the codes for both, in the order of their sequences. -/
def switches : List (String × Nat × Nat) :=
  [("bold", 1, 22), ("dim", 2, 22), ("underline", 4, 24), ("overline", 53, 55), ("italic", 3, 23),
   ("blink", 5, 25), ("reverse", 7, 27), ("strikethrough", 9, 29)]

/-- The sequence of a switch; none if the argument is not set. -/
def switchSequence (on off : Nat) : Value → String
  | .null => ""
  | v => sequence (toString (if v.truth then on else off))

def argumentNames : List String := "fg" :: "bg" :: switches.map Prod.fst ++ ["reset"]

namespace Style

/-- The value of an argument; an argument not given is not set. -/
def argument (style : Style) (name : String) : Value := (style.lookup name).getD .null

/-- Whether the text is followed by a reset: it is if nothing is said about it. -/
def resets (style : Style) : Bool :=
  match style.lookup "reset" with
  | some v => v.truth
  | none => true

/-- The first argument that a style cannot have, if there is one. -/
def check : Style → Except StyleError Unit
  | [] => .ok ()
  | (name, _) :: rest =>
    if name = "text" then .error .textTwice
    else if argumentNames.contains name then check rest
    else .error (.unknownArgument name)

/-- The sequences that a style puts in front of a text. -/
def opening (style : Style) : Except StyleError String := do
  style.check
  let foreground ← colourSequence 0 (style.argument "fg")
  let background ← colourSequence 10 (style.argument "bg")
  let rest := switches.map fun s => switchSequence s.2.1 s.2.2 (style.argument s.1)
  return foreground ++ background ++ String.join rest

def closing (style : Style) : String := if style.resets then sequence "0" else ""

def apply (style : Style) (text : String) : Except StyleError String := do
  let opening ← style.opening
  return opening ++ text ++ style.closing

end Style

end HintLine.Terminal
