import HintLine.Tree.Basic

/-!
A grammar of words and brackets, for texts of any language. At a bracket the node reaches to the bracket that
closes it; at a letter, a digit or an underscore it is the word; at any other character the row; behind the end
of a row the whole text.
-/

set_option autoImplicit false

namespace HintLine.Tree.Brackets

def lineFeed : UInt8 := 0x0A

/-- The rows of a text, without what ends them; there is always at least one. -/
def rows : List UInt8 → List (List UInt8)
  | [] => [[]]
  | b :: rest =>
    if b = lineFeed then [] :: rows rest
    else
      match rows rest with
      | [] => [[b]]
      | r :: rs => (b :: r) :: rs

/-- Bytes of words: letters, digits and the underscore of ASCII. -/
def isWord (b : UInt8) : Bool :=
  (0x30 ≤ b && b ≤ 0x39) || (0x41 ≤ b && b ≤ 0x5A) || (0x61 ≤ b && b ≤ 0x7A) || b = 0x5F

def closer? (b : UInt8) : Option UInt8 :=
  if b = 0x28 then some 0x29
  else if b = 0x5B then some 0x5D
  else if b = 0x7B then some 0x7D
  else none

/-- The bytes up to the one that closes as many brackets as are open; only one kind of bracket counts. -/
def upToCloser (opener closer : UInt8) : (depth : Nat) → List UInt8 → Option (List UInt8)
  | _, [] => none
  | depth, b :: rest =>
    if b = closer then
      if depth ≤ 1 then some [b] else (upToCloser opener closer (depth - 1) rest).map (b :: ·)
    else if b = opener then (upToCloser opener closer (depth + 1) rest).map (b :: ·)
    else (upToCloser opener closer depth rest).map (b :: ·)

def wordAt (row : List UInt8) (column : Nat) : List UInt8 :=
  ((row.take column).reverse.takeWhile isWord).reverse ++ (row.drop column).takeWhile isWord

def rowStart (rs : List (List UInt8)) (row : Nat) : Nat :=
  (rs.take row).foldl (fun n r => n + r.length + 1) 0

def nodeAtByte (source : List UInt8) (row : List UInt8) (start column : Nat) (b : UInt8) : Node :=
  match closer? b with
  | some closer => ⟨upToCloser b closer 0 (source.drop (start + column))⟩
  | none =>
    if 0x80 ≤ b then ⟨some [b]⟩
    else if isWord b then ⟨some (wordAt row column)⟩
    else ⟨some row⟩

def node? (source : List UInt8) (row column : Nat) : Option Node :=
  let rs := rows source
  match rs[row]? with
  | none => none
  | some r =>
    match r[column]? with
    | none => some ⟨some source⟩
    | some b => some (nodeAtByte source r (rowStart rs row) column b)

/-- The tree of a text; it has no nodes at negative rows or columns. -/
def tree (text : String) : Tree where
  node? row column :=
    if 0 ≤ row ∧ 0 ≤ column then node? (Text.Utf8.encode text.toList) row.toNat column.toNat else none

end HintLine.Tree.Brackets

namespace HintLine.Forest

/-- Parses a text as that of a buffer; its tree takes the place of the one that there was. -/
def grow (f : Forest) (buffer : Ident) (text : String) : Forest := f.insert buffer (Tree.Brackets.tree text)

def fell (f : Forest) (buffer : Ident) : Forest := f.erase buffer

end HintLine.Forest
