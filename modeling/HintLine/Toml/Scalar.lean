import HintLine.Decimal.Typed
import HintLine.Toml.Item
import HintLine.Toml.Refusal

/-!
Numbers, dates and truth values of a TOML file. Each is one word; only a date and a time of day may be parted
by a space.
-/

set_option autoImplicit false

namespace HintLine.Toml.Scalar

def isDigit (c : Char) : Bool := '0' ≤ c && c ≤ '9'

/-- A digit of a base, of ASCII and in either case. -/
def isDigitOf (base : Nat) (c : Char) : Bool := c.toNat < 128 && (Text.Digits.digit? base c).isSome

/-- Without the underscores that stand between two digits of a base. The flag says that the last character
read was a digit. -/
def dropSeparators (base : Nat) (afterDigit : Bool) : List Char → List Char
  | [] => []
  | ['_'] => ['_']
  | '_' :: c :: rest =>
    if afterDigit && isDigitOf base c then dropSeparators base false (c :: rest)
    else '_' :: dropSeparators base false (c :: rest)
  | c :: rest => c :: dropSeparators base (isDigitOf base c) rest

/-- The base that a mark behind a zero names, or ten. -/
def base : List Char → Nat
  | '0' :: 'x' :: _ => 16
  | '0' :: 'o' :: _ => 8
  | '0' :: 'b' :: _ => 2
  | _ => 10

/-- Whether a zero stands in front of a decimal number that goes on with a digit. -/
def isPadded : List Char → Bool
  | '0' :: c :: _ => !(c = '.' || c = 'o' || c = 'x' || c = 'b' || c = 'e')
  | _ => false

/-- Whether the digits before an exponent end with the point. -/
def endsWithPoint (s : List Char) : Bool :=
  s.getLast? = some '.' || (s.takeWhile fun c => c ≠ 'e' && c ≠ 'E').getLast? = some '.'

/-- A number. A sign may stand before a decimal number only, and a point has to have digits on both sides. A
whole number that is too long is refused, not rounded. -/
def number? (s : List Char) : Option Item :=
  let signed := s.head? = some '+' || s.head? = some '-'
  let negative := s.head? = some '-'
  let body := if signed then s.drop 1 else s
  let base := base body
  let bare := dropSeparators base false body
  if isPadded body || (signed && (base ≠ 10 || (body.head? = some '.' && 1 < body.length))) then none
  else if bare.contains '_' || (base ≠ 16 && endsWithPoint bare) then none
  else
    let text := if signed then (if negative then '-' else '+') :: bare else bare
    match Text.Digits.parse? base text with
    | some n => some (.integer n)
    | none => if bare.all isDigit then none else (Decimal.typed? text).map .float

def plainDigits? (s : List Char) : Option Nat :=
  if s.isEmpty || !s.all isDigit then none else some (s.foldl (fun n c => 10 * n + (c.toNat - 48)) 0)

def isLeap (year : Nat) : Bool := year % 4 = 0 && (year % 100 ≠ 0 || year % 400 = 0)

def daysIn (year month : Nat) : Nat :=
  if month = 2 then (if isLeap year then 29 else 28)
  else if month = 4 || month = 6 || month = 9 || month = 11 then 30
  else 31

def date? : List Char → Option Date
  | [y₁, y₂, y₃, y₄, '-', m₁, m₂, '-', d₁, d₂] => do
    let year ← plainDigits? [y₁, y₂, y₃, y₄]
    let month ← plainDigits? [m₁, m₂]
    let day ← plainDigits? [d₁, d₂]
    if 1 ≤ year && 1 ≤ month && month ≤ 12 && 1 ≤ day && day ≤ daysIn year month then
      some ⟨year, month, day⟩
    else none
  | _ => none

/-- The millionths of a second that digits behind the point write; further digits do not count. -/
def micro? (s : List Char) : Option Nat :=
  if s.isEmpty then none else plainDigits? ((s ++ List.replicate 6 '0').take 6)

/-- Seconds and millionths of a second, which a time of day may go without. -/
def seconds? : List Char → Option (Nat × Nat)
  | [] => some (0, 0)
  | [':', s₁, s₂] => (plainDigits? [s₁, s₂]).map (·, 0)
  | ':' :: s₁ :: s₂ :: '.' :: part => do
    let second ← plainDigits? [s₁, s₂]
    let micro ← if part.all isDigit then micro? part else none
    return (second, micro)
  | _ => none

def time? : List Char → Option Time
  | h₁ :: h₂ :: ':' :: m₁ :: m₂ :: rest => do
    let hour ← plainDigits? [h₁, h₂]
    let minute ← plainDigits? [m₁, m₂]
    let (second, micro) ← seconds? rest
    if hour < 24 && minute < 60 && second < 60 then some ⟨hour, minute, second, micro⟩ else none
  | _ => none

def zone? : List Char → Option Zone
  | [c] => if c = 'Z' || c = 'z' then some .universal else none
  | [s, h₁, h₂, ':', m₁, m₂] => do
    let hours ← plainDigits? [h₁, h₂]
    let minutes ← plainDigits? [m₁, m₂]
    if (s = '+' || s = '-' || s = '|') && hours < 24 && minutes < 60 then some (.offset s hours minutes)
    else none
  | _ => none

/-- A time of day with a zone, if there is one. -/
def zonedTime? (s : List Char) : Option (Time × Option Zone) :=
  let inTime (c : Char) := isDigit c || c = ':' || c = '.'
  let zone := s.dropWhile inTime
  (time? (s.takeWhile inTime)).bind fun t =>
    if zone.isEmpty then some (t, none) else (zone? zone).map fun z => (t, some z)

/-- A date and a time, parted by a letter or a space. -/
def dateTime? (s : List Char) : Option Moment :=
  match s.drop 10 with
  | c :: rest =>
    if c = 'T' || c = 't' || c = ' ' then do
      let d ← date? (s.take 10)
      let (t, z) ← zonedTime? rest
      some (.both d t z)
    else none
  | [] => none

/-- Characters that end a line, a comment apart, or a value in brackets or braces. -/
def endsValue (c : Char) : Bool :=
  c = '\t' || c = '\n' || c = '\r' || c = '#' || c = ',' || c = ']' || c = '\x7d'

def endsWord (c : Char) : Bool := c = ' ' || endsValue c

/-- What follows a date: blanks, or a time of day behind a space. -/
def afterDate (date : List Char) (d : Date) (rest : List Char) : Except Refusal (Item × List Char) :=
  let more := Text.Blank.stripEnd (rest.takeWhile (!endsValue ·))
  let rest := rest.dropWhile (!endsValue ·)
  if more.isEmpty then .ok (.moment (.date d), rest)
  else (Refusal.ofOption (dateTime? (date ++ more))).map fun m => (.moment m, rest)

def digitWord? (w : List Char) : Option Item :=
  ((dateTime? w).or ((time? w).map .time)).map .moment |>.or (number? w)

/-- A number, a date, a time or a truth value, and what follows it. -/
def read (s : List Char) : Except Refusal (Item × List Char) :=
  let w := s.takeWhile (!endsWord ·)
  let rest := s.dropWhile (!endsWord ·)
  match s with
  | 't' :: 'r' :: 'u' :: 'e' :: rest => .ok (.boolean true, rest)
  | 'f' :: 'a' :: 'l' :: 's' :: 'e' :: rest => .ok (.boolean false, rest)
  | c :: _ =>
    if isDigit c then
      match date? w with
      | some d => afterDate w d rest
      | none => (Refusal.ofOption (digitWord? w)).map (·, rest)
    else if c = '+' || c = '-' || w = "inf".toList || w = "nan".toList then
      (Refusal.ofOption (number? w)).map (·, rest)
    else .error (.character s)
  | [] => .error (.character s)

end HintLine.Toml.Scalar
