import HintLine.Toml.Body
import HintLine.Toml.Quotation
import HintLine.Toml.Scalar

/-!
Statements of a TOML file: headers of tables, headers of elements of arrays of tables, and keys with values.
Arrays and tables in braces may run over several lines, have comments between their members, and a comma after
the last one. A hundred of them may stand in one another, and a key may have a hundred parts.
-/

set_option autoImplicit false

namespace HintLine.Toml

/-- A statement. -/
inductive Statement where
  | header (key : Key)
  | element (key : Key)
  | entry (key : Key) (item : Item)
  deriving Inhabited

namespace Statement

open Quotation (isSpace isControl)

def isBlank (c : Char) : Bool := c = ' ' || c = '\t'

def isBare (c : Char) : Bool :=
  Scalar.isDigit c || ('a' ≤ c && c ≤ 'z') || ('A' ≤ c && c ≤ 'Z') || c = '_' || c = '-'

/-- One part of a key, and what follows it. A part in quotes stays on its line; in one without quotes no space
may stand. -/
def keyPart (s : List Char) : Except Refusal (String × List Char) :=
  match s with
  | '"' :: rest => Refusal.ofOption <| (Quotation.basic rest).map fun (k, rest) => (String.ofList k, rest)
  | '\'' :: rest => Refusal.ofOption <| (Quotation.plain rest).map fun (k, rest) => (String.ofList k, rest)
  | _ =>
    let part := s.takeWhile fun c => isBare c || isBlank c
    let name := (part.reverse.dropWhile isBlank).reverse
    if name.isEmpty || name.contains ' ' then .error .meaningless
    else .ok (String.ofList name, s.dropWhile fun c => isBare c || isBlank c)

/-- How many parts a key may have, and how many values may stand in one another. -/
def limit : Nat := 100

/-- A dotted key of at most so many parts, and what follows it and its blanks. -/
def key : (parts : Nat) → List Char → Except Refusal (Key × List Char)
  | 0, _ => .error .meaningless
  | parts + 1, s => do
    let (k, rest) ← keyPart (s.dropWhile isBlank)
    match rest.dropWhile isBlank with
    | '.' :: more => (key parts more).map fun (ks, rest) => (k :: ks, rest)
    | rest => .ok ([k], rest)

def afterEquals : List Char → Except Refusal (List Char)
  | '=' :: rest =>
    match rest.dropWhile isBlank with
    | '=' :: more => .error (.character ('=' :: more))
    | rest => .ok rest
  | rest => .error (.character rest)

/-- What follows a comment, from the end of its line on; control characters may not stand in it. -/
def afterComment : List Char → Except Refusal (List Char)
  | [] => .ok []
  | c :: rest =>
    if c = '\n' || c = '\r' then .ok (c :: rest)
    else if isControl c then .error .meaningless
    else afterComment rest

def dropLineEnd : List Char → List Char
  | '\r' :: '\n' :: rest => rest
  | '\r' :: rest => rest
  | '\n' :: rest => rest
  | s => s

/-- What follows the end of a line, which may have blanks and a comment. -/
def afterLine (s : List Char) : Except Refusal (List Char) :=
  match s.dropWhile fun c => isBlank c || c = '\r' with
  | [] => .ok []
  | '\n' :: rest => .ok rest
  | '#' :: rest => (afterComment rest).map dropLineEnd
  | rest => .error (.character rest)

/-- What follows spaces, line ends and comments; `commented` while a comment is read. -/
def skip (commented : Bool) : List Char → Except Refusal (List Char)
  | [] => .ok []
  | c :: rest =>
    if c = '\n' || c = '\r' then skip false rest
    else if commented then (if isControl c then .error .meaningless else skip true rest)
    else if c = '#' then skip true rest
    else if isBlank c then skip false rest
    else .ok (c :: rest)

mutual

/-- A value with so many others in one another at most, and what follows it. -/
def value : (depth fuel : Nat) → List Char → Except Refusal (Item × List Char)
  | _, 0, _ => .error .meaningless
  | depth, fuel + 1, s =>
    match s, depth with
    | '[' :: rest, depth + 1 => (elements depth fuel rest).map fun (is, rest) => (.array is, rest)
    | '\x7b' :: rest, depth + 1 =>
      (fields depth fuel [] rest).map fun (body, rest) => (.table body.fields, rest)
    | '[' :: _, 0 => .error .meaningless
    | '\x7b' :: _, 0 => .error .meaningless
    | '"' :: _, _ => text s
    | '\'' :: _, _ => text s
    | _, _ => Scalar.read s
where
  /-- A string and what follows it. -/
  text (s : List Char) : Except Refusal (Item × List Char) :=
    Refusal.ofOption <| (Quotation.read? s).map fun (t, rest) => (.string (String.ofList t), rest)

/-- The values of an array up to its closing bracket, and what follows that. A bracket in the middle of a table
closes the array without that table. -/
def elements : (depth fuel : Nat) → List Char → Except Refusal (List Item × List Char)
  | _, 0, _ => .error .meaningless
  | depth, fuel + 1, s => do
    match value depth fuel (← skip false s) with
    | .ok (i, rest) =>
      match ← skip false rest with
      | ',' :: rest => (elements depth fuel rest).map fun (is, rest) => (i :: is, rest)
      | ']' :: rest => .ok ([i], rest)
      | rest => .error (.character rest)
    | .error (.character (']' :: rest)) => .ok ([], rest)
    | .error e => .error e

/-- The body of a table in braces up to the closing brace, and what follows that. -/
def fields : (depth fuel : Nat) → Body → List Char → Except Refusal (Body × List Char)
  | _, 0, _, _ => .error .meaningless
  | depth, fuel + 1, body, s => do
    match ← skip false s with
    | '\x7d' :: rest => .ok (body, rest)
    | rest =>
      let (k, rest) ← key limit rest
      let (i, rest) ← value depth fuel (← afterEquals rest)
      let body ← Refusal.ofOption (body.put k i)
      match ← skip false rest with
      | ',' :: rest => fields depth fuel body rest
      | '\x7d' :: rest => .ok (body, rest)
      | rest => .error (.character rest)

end

/-- A header, from what follows its first bracket on. Of the two brackets that close the header of an element
the second is not looked at. -/
def heading (s : List Char) : Except Refusal (Statement × List Char) :=
  match s with
  | '[' :: rest => do
    match ← key limit rest with
    | (k, ']' :: rest) => (afterLine (rest.drop 1)).map (element k, ·)
    | (_, rest) => .error (.character rest)
  | _ => do
    match ← key limit s with
    | (k, ']' :: rest) => (afterLine rest).map (header k, ·)
    | (_, rest) => .error (.character rest)

/-- A key with its value up to the end of the line, and what follows. -/
def assignment (s : List Char) : Except Refusal (Statement × List Char) := do
  let (k, rest) ← key limit s
  let (i, rest) ← value limit (2 * s.length + 2) (← afterEquals rest)
  (afterLine rest).map (entry k i, ·)

def all : (fuel : Nat) → List Char → Except Refusal (List Statement)
  | 0, _ => .error .meaningless
  | fuel + 1, s => do
    match s.dropWhile fun c => isBlank c || c = '\r' with
    | [] => .ok []
    | '\n' :: rest => all fuel rest
    | '#' :: rest => all fuel (dropLineEnd (← afterComment rest))
    | '[' :: rest =>
      let (st, rest) ← heading rest
      (all fuel rest).map (st :: ·)
    | _ =>
      let (st, rest) ← assignment s
      (all fuel rest).map (st :: ·)

end Statement

end HintLine.Toml
