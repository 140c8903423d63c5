import HintLine.Text.Digits

/-!
Names of log files. What stands in braces is a field, which may have a conversion behind an exclamation mark and a
form behind a colon; the form may hold fields again. The only field there is is the time. A brace that is written
twice stands for itself.
-/

set_option autoImplicit false

namespace HintLine.Log.FileName

/-- Why a name is refused. -/
inductive Failure where
  | loneOpening
  | loneClosing
  | openingInField
  | unclosed
  | unclosedForm
  | noConversion
  | afterConversion
  | unknownConversion (c : Char)
  | positional
  | unknownField (name : String)
  | tooDeep
  deriving DecidableEq, Repr

def Failure.message : Failure → String
  | loneOpening => "Single '\x7b' encountered in format string"
  | loneClosing => "Single '\x7d' encountered in format string"
  | openingInField => "unexpected '\x7b' in field name"
  | unclosed => "expected '\x7d' before end of string"
  | unclosedForm => "unmatched '\x7b' in format spec"
  | noConversion => "end of string while looking for conversion specifier"
  | afterConversion => "expected ':' after conversion specifier"
  | unknownConversion c =>
    if 32 < c.toNat && c.toNat < 127 then s!"Unknown conversion specifier {c}"
    else
      let code := String.ofList (Nat.toDigits 16 c.toNat)
      s!"Unknown conversion specifier \\x{code}"
  | positional => "Format string contains positional fields"
  | unknownField name => name
  | tooDeep => "Max string recursion exceeded"

/-- A field of a name. -/
structure Field where
  name : List Char
  conversion : Option Char
  form : List Char
  deriving DecidableEq, Repr

def isBrace (c : Char) : Bool := c = '\x7b' || c = '\x7d'

/-- The name of a field up to the character that ends it, and what is left from that on. Between brackets every
character belongs to the name. -/
def name (inBrackets : Bool) : List Char → Except Failure (List Char × List Char)
  | [] => .error .unclosed
  | c :: rest =>
    if inBrackets then (name (c ≠ ']') rest).map fun (n, rest) => (c :: n, rest)
    else if c = '\x7b' then .error .openingInField
    else if c = '\x7d' || c = ':' || c = '!' then .ok ([], c :: rest)
    else (name (c = '[') rest).map fun (n, rest) => (c :: n, rest)

/-- A form up to the brace that closes its field, and what follows; `depth` more braces are open. -/
def form (depth : Nat) : List Char → Except Failure (List Char × List Char)
  | [] => .error .unclosedForm
  | c :: rest =>
    if c = '\x7d' then
      match depth with
      | 0 => .ok ([], rest)
      | depth + 1 => (form depth rest).map fun (f, rest) => (c :: f, rest)
    else (form (if c = '\x7b' then depth + 1 else depth) rest).map fun (f, rest) => (c :: f, rest)

/-- A field from behind its brace on, and what follows it. -/
def field (s : List Char) : Except Failure (Field × List Char) := do
  let (n, rest) ← name false s
  match rest with
  | ['!'] => .error .noConversion
  | ['!', _] => .error .unclosedForm
  | '!' :: c :: '\x7d' :: rest => .ok (⟨n, some c, []⟩, rest)
  | '!' :: c :: ':' :: rest => (form 0 rest).map fun (f, rest) => (⟨n, some c, f⟩, rest)
  | '!' :: _ => .error .afterConversion
  | ':' :: rest => (form 0 rest).map fun (f, rest) => (⟨n, none, f⟩, rest)
  | _ => .ok (⟨n, none, []⟩, rest.drop 1)

/-- Text up to the next field, that field, if there is one, and what follows. A brace that stands for itself ends
a stretch of text, too. -/
def stretch (s : List Char) : Except Failure (List Char × Option Field × List Char) :=
  let text := s.takeWhile (!isBrace ·)
  match s.dropWhile (!isBrace ·) with
  | [] => .ok (text, none, [])
  | '\x7b' :: '\x7b' :: rest => .ok (text ++ ['\x7b'], none, rest)
  | '\x7d' :: '\x7d' :: rest => .ok (text ++ ['\x7d'], none, rest)
  | ['\x7b'] => .error .loneOpening
  | '\x7b' :: rest => (field rest).map fun (f, rest) => (text, some f, rest)
  | _ => .error .loneClosing

/-- Checks that a name can be read to its end; each step takes one character at least. -/
def checkBraces : (steps : Nat) → List Char → Except Failure Unit
  | 0, _ => .ok ()
  | _ + 1, [] => .ok ()
  | steps + 1, c :: rest => do
    let (_, _, rest) ← stretch (c :: rest)
    checkBraces steps rest

/-- Whether a field has a number in place of a name, or nothing. -/
def isPositional (n : List Char) : Bool := n.all fun c => (Text.Digits.value? c).isSome

def Field.check (f : Field) : Except Failure Unit :=
  let first := f.name.takeWhile fun c => c ≠ '.' && c ≠ '['
  if isPositional first then .error .positional
  else if String.ofList first ≠ "time" then .error (.unknownField (String.ofList first))
  else
    match f.conversion with
    | none => .ok ()
    | some c => if c = 'r' || c = 's' || c = 'a' then .ok () else .error (.unknownConversion c)

/-- A name with its fields filled in, at most so many in one another. A point in time is shown as the form that is
asked for, which says where there are slashes. -/
def filled : (depth steps : Nat) → List Char → Except Failure (List Char)
  | 0, _, _ => .error .tooDeep
  | _, 0, _ => .ok []
  | _, _, [] => .ok []
  | depth + 1, steps + 1, c :: rest => do
    let (text, f, rest) ← stretch (c :: rest)
    let value ←
      match f with
      | none => .ok []
      | some f => do
        f.check
        let form ← if f.form.contains '\x7b' then filled depth steps f.form else .ok f.form
        .ok (if form.isEmpty then "time".toList else form)
    (filled (depth + 1) steps rest).map (text ++ value ++ ·)

/-- The name of the file that a text names. A field may stand in the form of another, but no deeper. -/
def resolve (s : String) : Except Failure String := do
  let name := s.toList
  checkBraces (name.length + 1) name
  (filled 2 (name.length + 1) name).map String.ofList

end HintLine.Log.FileName
