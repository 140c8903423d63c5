import HintLine.Text.Digits

/-!
Strings of a TOML file. Between quotation marks a backslash begins an escape; between apostrophes nothing
does. Three marks enclose text of several lines, of which a line feed right after the opening marks does not
count. Control characters other than the tab, and line ends where there may be several lines, have to be
escaped.
-/

set_option autoImplicit false

namespace HintLine.Toml.Quotation

/-- Characters that may not stand in a text as they are. -/
def isControl (c : Char) : Bool := (c.toNat < 0x20 && c ≠ '\t') || c.toNat = 0x7F

/-- The character whose number is typed in base sixteen, unless there is none. -/
def code? (digits : List Char) : Option Char :=
  (Text.Digits.parse? 16 digits).bind fun n =>
    if h : 0 ≤ n ∧ n.toNat.isValidChar then some (Char.ofNatAux n.toNat h.2) else none

def escaped? (c : Char) : Option Char :=
  match c with
  | 'b' => some '\x08'
  | 'e' => some '\x1b'
  | 't' => some '\t'
  | 'n' => some '\n'
  | 'f' => some '\x0c'
  | 'r' => some '\r'
  | '"' => some '"'
  | '\\' => some '\\'
  | _ => none

def push (c : Char) (r : Option (List Char × List Char)) : Option (List Char × List Char) :=
  r.map fun (text, rest) => (c :: text, rest)

/-- The text up to the closing quotation mark, and what follows it. -/
def basic : List Char → Option (List Char × List Char)
  | '"' :: rest => some ([], rest)
  | '\\' :: 'x' :: a :: b :: rest => (code? [a, b]).bind fun x => push x (basic rest)
  | '\\' :: 'u' :: a :: b :: c :: d :: rest => (code? [a, b, c, d]).bind fun x => push x (basic rest)
  | '\\' :: 'U' :: a :: b :: c :: d :: e :: f :: g :: h :: rest =>
    (code? [a, b, c, d, e, f, g, h]).bind fun x => push x (basic rest)
  | '\\' :: c :: rest => (escaped? c).bind fun x => push x (basic rest)
  | c :: rest => if isControl c || c = '\\' then none else push c (basic rest)
  | [] => none

/-- The text up to the closing apostrophe, and what follows it. -/
def plain : List Char → Option (List Char × List Char)
  | [] => none
  | c :: rest =>
    if c = '\'' then some ([], rest) else if isControl c then none else push c (plain rest)

/-- A space, a tab, a line feed or a carriage return. -/
def isSpace (c : Char) : Bool := c = ' ' || c = '\t' || c = '\n' || c = '\r'

/-- Whether spaces with a line feed among them stand in front. -/
def breaksLine (s : List Char) : Bool := (s.takeWhile isSpace).contains '\n'

/-- The text up to three closing quotation marks, and what follows them. Up to two more marks before them
belong to the text. A backslash before a line end takes all spaces that follow away: while `skipping`, spaces
do not count. -/
def basicLines (skipping : Bool) : List Char → Option (List Char × List Char)
  | '"' :: '"' :: '"' :: '"' :: '"' :: rest => some (['"', '"'], rest)
  | '"' :: '"' :: '"' :: '"' :: rest => some (['"'], rest)
  | '"' :: '"' :: '"' :: rest => some ([], rest)
  | '\\' :: 'x' :: a :: b :: rest => (code? [a, b]).bind fun x => push x (basicLines false rest)
  | '\\' :: 'u' :: a :: b :: c :: d :: rest =>
    (code? [a, b, c, d]).bind fun x => push x (basicLines false rest)
  | '\\' :: 'U' :: a :: b :: c :: d :: e :: f :: g :: h :: rest =>
    (code? [a, b, c, d, e, f, g, h]).bind fun x => push x (basicLines false rest)
  | '\\' :: c :: rest =>
    if breaksLine (c :: rest) then basicLines true (c :: rest)
    else (escaped? c).bind fun x => push x (basicLines false rest)
  | c :: rest =>
    if skipping && isSpace c then basicLines true rest
    else if isControl c && !isSpace c || c = '\\' then none
    else push c (basicLines false rest)
  | [] => none

/-- The text up to three closing apostrophes, and what follows them. -/
def plainLines : List Char → Option (List Char × List Char)
  | '\'' :: '\'' :: '\'' :: '\'' :: '\'' :: rest => some (['\'', '\''], rest)
  | '\'' :: '\'' :: '\'' :: '\'' :: rest => some (['\''], rest)
  | '\'' :: '\'' :: '\'' :: rest => some ([], rest)
  | c :: rest => if isControl c && !isSpace c then none else push c (plainLines rest)
  | [] => none

def dropLineEnd : List Char → List Char
  | '\n' :: rest => rest
  | '\r' :: '\n' :: rest => rest
  | s => s

/-- A string of any form, and what follows it. -/
def read? : List Char → Option (List Char × List Char)
  | '"' :: '"' :: '"' :: rest => basicLines false (dropLineEnd rest)
  | '\'' :: '\'' :: '\'' :: rest => plainLines (dropLineEnd rest)
  | '"' :: rest => basic rest
  | '\'' :: rest => plain rest
  | _ => none

end HintLine.Toml.Quotation
