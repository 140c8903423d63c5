import HintLine.Decimal.Places
import HintLine.Text.Field
import HintLine.Value

/-!
Message templates. A percent sign begins a directive, which ends with a letter and stands for the next argument;
between the two may stand a key in parentheses, flags, the width of a field, and a precision behind a point. A
star takes a width or a precision from the arguments. Two percent signs stand for one. A message without
arguments is taken as it is. If the only argument is a dictionary with fields, keys name its fields.
-/

set_option autoImplicit false

namespace HintLine.Log.Template

open HintLine.Decimal (Places Parts)
open HintLine.Text (Field)

/-- Why a template cannot be filled in. -/
inductive Failure where
  | tooFew
  | tooMany
  | notReal (directive : Char) (kind : String)
  | notInteger (directive : Char) (kind : String)
  | notFloat (kind : String)
  | notCharacter
  | noSuchCharacter
  | notNumber
  | endless
  | tooGreat
  | starNotInteger
  | starTooGreat (kind : String)
  | widthTooGreat
  | precisionTooGreat
  | noMapping
  | missingKey (key : String)
  | incomplete
  | incompleteKey
  | unknown (directive : Char) (index : Nat)
  deriving DecidableEq, Repr

def Failure.message : Failure → String
  | tooFew => "not enough arguments for format string"
  | tooMany => "not all arguments converted during string formatting"
  | notReal directive kind => s!"%{directive} format: a real number is required, not {kind}"
  | notInteger directive kind => s!"%{directive} format: an integer is required, not {kind}"
  | notFloat kind => s!"must be real number, not {kind}"
  | notCharacter => "%c requires int or char"
  | noSuchCharacter => "%c arg not in range(0x110000)"
  | notNumber => "cannot convert float NaN to integer"
  | endless => "cannot convert float infinity to integer"
  | tooGreat => "int too large to convert to float"
  | starNotInteger => "* wants int"
  | starTooGreat kind => s!"Python int too large to convert to C {kind}"
  | widthTooGreat => "width too big"
  | precisionTooGreat => "precision too big"
  | noMapping => "format requires a mapping"
  | missingKey key => key
  | incomplete => "incomplete format"
  | incompleteKey => "incomplete format key"
  | unknown directive index =>
    let code := String.ofList (Nat.toDigits 16 directive.toNat)
    let shown := if 31 ≤ directive.toNat && directive.toNat ≤ 126 then directive else '?'
    s!"unsupported format character '{shown}' (0x{code}) at index {index}"

/-- The arguments that are left, and the fields that keys name, if there are any. -/
structure Supply where
  mapping : Option (List (String × Value))
  next : List Value

namespace Supply

def ofList : List Value → Supply
  | [.dict fields] => ⟨if fields.isEmpty then none else some fields, [.dict fields]⟩
  | args => ⟨none, args⟩

/-- The next argument, and the supply without it. -/
def take (s : Supply) : Except Failure (Value × Supply) :=
  match s.next with
  | [] => .error .tooFew
  | a :: rest => .ok (a, { s with next := rest })

/-- The supply in which the value of a key is all that is left. -/
def select (s : Supply) (key : String) : Except Failure Supply :=
  match s.mapping with
  | none => .error .noMapping
  | some fields =>
    match fields.lookup key with
    | some v => .ok { s with next := [v] }
    | none => .error (.missingKey key)

/-- Whether arguments are left that should have been used. -/
def isWasted (s : Supply) : Bool := s.mapping.isNone && !s.next.isEmpty

end Supply

/-- A key up to the parenthesis that closes it, and what follows; `depth` more are open. -/
def key? (depth : Nat) : List Char → Option (List Char × List Char)
  | [] => none
  | c :: rest =>
    if c = ')' then
      match depth with
      | 0 => some ([], rest)
      | depth + 1 => (key? depth rest).map fun (k, rest) => (c :: k, rest)
    else (key? (if c = '(' then depth + 1 else depth) rest).map fun (k, rest) => (c :: k, rest)

/-- Takes a key in, if one stands in front. -/
def select (s : Supply) : List Char → Except Failure (Supply × List Char)
  | '(' :: rest =>
    if s.mapping.isNone then .error .noMapping
    else
      match key? 0 rest with
      | none => .error .incompleteKey
      | some (k, rest) => (s.select (String.ofList k)).map (·, rest)
  | rest => .ok (s, rest)

def isFlag (c : Char) : Bool := c = '-' || c = '+' || c = ' ' || c = '#' || c = '0'

def fieldOf (flags : List Char) : Field :=
  { Field.free with
    left := flags.contains '-', plus := flags.contains '+', blank := flags.contains ' ',
    full := flags.contains '#', zeros := flags.contains '0' }

def isDigit (c : Char) : Bool := '0' ≤ c && c ≤ '9'

def numberOf (digits : List Char) : Nat := digits.foldl (fun n c => 10 * n + (c.toNat - 48)) 0

def maxWidth : Nat := Nat.pow 2 63 - 1

def maxPrecision : Nat := Nat.pow 2 31 - 1

/-- A whole number; truth values are numbers, too. -/
def integer? : Value → Option Int
  | .int n => some n
  | .bool b => some (if b then 1 else 0)
  | _ => none

def star (s : Supply) (limit : Nat) (kind : String) : Except Failure (Int × Supply) := do
  let (a, s) ← s.take
  match integer? a with
  | none => .error .starNotInteger
  | some n => if n.natAbs ≤ limit then .ok (n, s) else .error (.starTooGreat kind)

/-- Takes the width of the field in. A negative one asks for the left side. -/
def widen (s : Supply) (f : Field) : List Char → Except Failure (Field × Supply × List Char)
  | '*' :: rest => do
    let (n, s) ← star s maxWidth "ssize_t"
    return ({ f with left := f.left || n < 0, width := n.natAbs }, s, rest)
  | rest =>
    let width := numberOf (rest.takeWhile isDigit)
    if maxWidth < width then .error .widthTooGreat
    else .ok ({ f with width }, s, rest.dropWhile isDigit)

/-- Takes a precision in, if there is one. -/
def precise (s : Supply) : List Char → Except Failure (Option Nat × Supply × List Char)
  | '.' :: '*' :: rest => do
    let (n, s) ← star s maxPrecision "int"
    return (some n.toNat, s, rest)
  | '.' :: rest =>
    let precision := numberOf (rest.takeWhile isDigit)
    if maxPrecision < precision then .error .precisionTooGreat
    else .ok (some precision, s, rest.dropWhile isDigit)
  | rest => .ok (none, s, rest)

/-- Without the letter in front that tells the size of a number and does not count. -/
def dropSize : List Char → List Char
  | c :: rest => if c = 'h' || c = 'l' || c = 'L' then rest else c :: rest
  | [] => []

/-- A text in which characters beyond ASCII show by their codes. -/
def plain (s : List Char) : List Char :=
  s.flatMap fun c =>
    if c.toNat < 0x80 then [c]
    else if c.toNat < 0x100 then '\\' :: 'x' :: Text.Quoted.hex 2 c.toNat
    else if c.toNat < 0x10000 then '\\' :: 'u' :: Text.Quoted.hex 4 c.toNat
    else '\\' :: 'U' :: Text.Quoted.hex 8 c.toNat

/-- A text cut to the precision, in its field. -/
def shown (f : Field) (precision : Option Nat) (s : List Char) : List Char :=
  f.text (match precision with
    | some n => s.take n
    | none => s)

/-- A whole number; a fraction loses what stands after the point. -/
def whole (d : Char) (a : Value) : Except Failure Int :=
  match a with
  | .float x =>
    match Parts.ofFloat x with
    | .nan => .error .notNumber
    | .infinity _ => .error .endless
    | parts => .ok (parts.whole?.getD 0)
  | _ =>
    match integer? a with
    | some n => .ok n
    | none => .error (.notReal d a.kind)

/-- A whole number in a base, with at least as many digits as the precision says. -/
def digits (f : Field) (precision : Option Nat) (base : Nat) (mark : List Char) (n : Int) : List Char :=
  let ds := Nat.toDigits base n.natAbs
  f.number (n < 0) (if f.full then mark else []) (Decimal.zeros (precision.getD 1 - ds.length) ++ ds)

def float (a : Value) : Except Failure Float :=
  match a with
  | .float x => .ok x
  | _ =>
    match integer? a with
    | none => .error (.notFloat a.kind)
    | some n =>
      let x := Decimal.nearest (n < 0) n.natAbs 0
      match Parts.ofFloat x with
      | .infinity _ => .error .tooGreat
      | _ => .ok x

/-- A floating-point number with its places; six if no precision is given. -/
def places (f : Field) (precision : Option Nat) (style : Places.Style) (x : Float) : List Char :=
  match (Places.mk style (precision.getD 6) f.full).text x with
  | '-' :: rest => f.number true [] rest
  | rest => f.number false [] rest

/-- The character that an argument is or whose number it is. -/
def character (a : Value) : Except Failure Char :=
  match a, integer? a with
  | .str s, _ =>
    match s.toList with
    | [c] => .ok c
    | _ => .error .notCharacter
  | _, some n => if 0 ≤ n && n < 0x110000 then .ok (Char.ofNat n.toNat) else .error .noSuchCharacter
  | _, none => .error .notCharacter

def inBase (f : Field) (precision : Option Nat) (d : Char) (base : Nat) (a : Value) :
    Except Failure (List Char) :=
  match integer? a with
  | some n => .ok (digits f precision base ['0', d] n)
  | none => .error (.notInteger d a.kind)

def convert (f : Field) (precision : Option Nat) (d : Char) (index : Nat) (a : Value) :
    Except Failure (List Char) :=
  let upper (s : List Char) := s.map Char.toUpper
  match d with
  | 's' => .ok (shown f precision a.text.toList)
  | 'r' => .ok (shown f precision a.literal.toList)
  | 'a' => .ok (shown f precision (plain a.literal.toList))
  | 'd' => (whole d a).map (digits f precision 10 [])
  | 'i' => (whole d a).map (digits f precision 10 [])
  | 'u' => (whole d a).map (digits f precision 10 [])
  | 'o' => inBase f precision d 8 a
  | 'x' => inBase f precision d 16 a
  | 'X' => (inBase f precision d 16 a).map upper
  | 'c' => (character a).map fun c => f.text [c]
  | 'f' => (float a).map (places f precision .fixed)
  | 'F' => (float a).map (upper ∘ places f precision .fixed)
  | 'e' => (float a).map (places f precision .scientific)
  | 'E' => (float a).map (upper ∘ places f precision .scientific)
  | 'g' => (float a).map (places f precision .general)
  | 'G' => (float a).map (upper ∘ places f precision .general)
  | _ => .error (.unknown d index)

/-- A directive from behind its percent sign on: its text, the supply that it leaves, and what follows it.
`length` is that of the whole template. -/
def directive (length : Nat) (s : Supply) (template : List Char) :
    Except Failure (List Char × Supply × List Char) := do
  let (s, rest) ← select s template
  let (f, s, rest) ← widen s (fieldOf (rest.takeWhile isFlag)) (rest.dropWhile isFlag)
  let (precision, s, rest) ← precise s rest
  match dropSize rest with
  | [] => .error .incomplete
  | d :: rest =>
    let (a, s) ← s.take
    return (← convert f precision d (length - rest.length - 1) a, s, rest)

/-- A template filled in. `length` is that of the whole template; each step takes one character at least. -/
def fill (length : Nat) : (steps : Nat) → Supply → List Char → Except Failure (List Char)
  | 0, _, _ => .error .incomplete
  | _ + 1, s, [] => if s.isWasted then .error .tooMany else .ok []
  | steps + 1, s, '%' :: '%' :: rest => (fill length steps s rest).map ('%' :: ·)
  | steps + 1, s, '%' :: rest => do
    let (text, s, rest) ← directive length s rest
    (fill length steps s rest).map (text ++ ·)
  | steps + 1, s, c :: rest => (fill length steps s rest).map (c :: ·)

def message (template : String) (args : List Value) : Except Failure String :=
  if args.isEmpty then .ok template
  else
    let text := template.toList
    (fill text.length (text.length + 1) (.ofList args) text).map String.ofList

end HintLine.Log.Template
