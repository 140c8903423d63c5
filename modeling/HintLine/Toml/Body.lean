import HintLine.Toml.Item

/-!
The body of a table as a file writes it. A table may come in several pieces, with other tables between them:
`[a.b]`, `[c]` and `[a.d]` hold two pieces of `a`. A body keeps each piece where it stands. Adding a piece checks
that it may follow the pieces of its key that are there, and `fields` lays all pieces over one another.
-/

set_option autoImplicit false

namespace HintLine.Toml

/-- A key where it is written; `dotted` says that a dot and more parts follow it in front of an equals sign. -/
structure Label where
  name : String
  dotted : Bool
  deriving DecidableEq, Repr

/-- What stands under a key: a value, a piece of a table, or the tables of an array. A table is `passing` if it
was only named on the way to another. -/
inductive Piece where
  | value (item : Item)
  | table (passing : Bool) (body : List (Label × Piece))
  | tables (elements : List (List (Label × Piece)))
  deriving Inhabited

/-- Pieces under their keys, in the order of the file. -/
abbrev Body := List (Label × Piece)

abbrev Key := List String

namespace Piece

def isTable : Piece → Bool
  | table _ _ => true
  | _ => false

mutual

def depth : Piece → Nat
  | value _ => 0
  | table _ body => bodyDepth body + 1
  | tables elements => elementsDepth elements + 1

def bodyDepth : List (Label × Piece) → Nat
  | [] => 0
  | (_, p) :: rest => max (depth p) (bodyDepth rest)

def elementsDepth : List (List (Label × Piece)) → Nat
  | [] => 0
  | b :: rest => max (bodyDepth b) (elementsDepth rest)

end

/-- A piece under a dotted key: a passing table for each part but the last. The flag says whether the key
stands in front of an equals sign. -/
def under (assigned : Bool) : Key → Piece → Option (Label × Piece)
  | [], _ => none
  | [k], p => some (⟨k, false⟩, p)
  | k :: ks, p => (under assigned ks p).map fun e => (⟨k, assigned⟩, table true [e])

end Piece

namespace Body

/-- The last piece of a key, with its label. -/
def last? (k : String) (body : Body) : Option (Label × Piece) :=
  (body.filter (·.1.name = k)).getLast?

/-- Puts another piece in the place of the last one of a key. -/
def setLast (k : String) (p : Piece) : Body → Body
  | [] => []
  | (l, q) :: rest =>
    if l.name = k && !rest.any (·.1.name = k) then (l, p) :: rest else (l, q) :: setLast k p rest

def lastTable? (body : Body) : Option String :=
  (body.filter (·.2.isTable)).getLast?.map (·.1.name)

def isSplit (k : String) (body : Body) : Bool := 2 ≤ body.countP (·.1.name = k)

/-- The entries of all pieces of a table, one piece after the other. -/
def joined (k : String) (body : Body) : Body :=
  (body.map fun (l, p) =>
    match p with
    | .table _ inner => if l.name = k then inner else []
    | _ => []).flatten

/-- Whether each piece that is followed by another of its key is a table. -/
def isStacked : Body → Bool
  | [] => true
  | (l, p) :: rest => (p.isTable || !rest.any (·.1.name = l.name)) && isStacked rest

mutual

/-- Adds a piece to a body. A value needs a new key. Tables of an array extend the array that is there, and a
table may not follow a value or an array. A passing table that directly follows a passing one melts into it;
one that stands apart becomes a further piece, of which `strict` asks that it fits the others. A passing table
and one with a header of its own may follow each other, unless the first was made by a dotted key. -/
def add (strict : Bool) : (fuel : Nat) → Label → Piece → Body → Option Body
  | 0, _, _, _ => none
  | fuel + 1, l, p, body =>
    match body.last? l.name, p with
    | none, _ => some (body ++ [(l, p)])
    | some (_, .tables old), .tables new => some (body.setLast l.name (.tables (old ++ new)))
    | some (l₀, .table true old), .table true new =>
      if l.dotted || l₀.dotted || body.lastTable? ≠ some l.name then
        let longer := body ++ [(l, p)]
        if strict && !fits fuel l.name longer then none else some longer
      else
        (new.foldlM (fun b e => addInside true fuel e.1 e.2 b) old).map fun b =>
          body.setLast l.name (.table true b)
    | some (l₀, .table true _), .table false _ => if l₀.dotted then none else some (body ++ [(l, p)])
    | some (_, .table false _), .table true _ => some (body ++ [(l, p)])
    | _, _ => none

/-- Adds a piece to the body of a table, where the pieces of its key have to show as one table at once. -/
def addInside (strict : Bool) : (fuel : Nat) → Label → Piece → Body → Option Body
  | 0, _, _, _ => none
  | fuel + 1, l, p, body =>
    (add strict fuel l p body).bind fun b =>
      let pieces := b.joined l.name
      if !b.isSplit l.name || (pieces.isStacked && agrees fuel pieces) then some b else none

/-- Whether the pieces of a key can be added to one another. -/
def fits : (fuel : Nat) → String → Body → Bool
  | 0, _, _ => false
  | fuel + 1, k, body =>
    match (body.joined k).foldlM (fun b e => add false fuel e.1 e.2 b) [] with
    | some b => agrees fuel b
    | none => false

/-- Whether the pieces of each key can be added to one another. -/
def agrees : (fuel : Nat) → Body → Bool
  | 0, _ => false
  | fuel + 1, body => body.all fun e => !body.isSplit e.1.name || fits fuel e.1.name body

end

/-- Enough fuel for what is done at one level of each table in a body. -/
def fuel (p : Piece) (body : Body) : Nat := 4 * (p.depth + Piece.bodyDepth body) + 8

/-- Adds what stands under a dotted key in front of an equals sign. -/
def put (k : Key) (i : Item) (body : Body) : Option Body :=
  (Piece.under true k (.value i)).bind fun (l, p) => add true (fuel p body) l p body

/-- Adds what stands under a dotted key in front of an equals sign to the body of a table. -/
def putInside (k : Key) (i : Item) (body : Body) : Option Body :=
  (Piece.under true k (.value i)).bind fun (l, p) => addInside true (fuel p body) l p body

/-- Whether all pieces agree, however deep. -/
def isSound (body : Body) : Bool := agrees (fuel (.value (.boolean true)) body) body

end Body

namespace Item

mutual

/-- A value laid over another: a table keeps the fields that the new one lacks, anything else is replaced. -/
def overlay (old : Item) : Item → Item
  | table new =>
    match old with
    | table fields => table (overlayFields fields new)
    | _ => table new
  | i => i

def overlayFields (fields : List (String × Item)) : List (String × Item) → List (String × Item)
  | [] => fields
  | (k, i) :: rest =>
    let next :=
      match fields.lookup k with
      | some old => let new := overlay old i; fields.map fun f => if f.1 = k then (k, new) else f
      | none => fields ++ [(k, i)]
    overlayFields next rest

end

def lay (fields : List (String × Item)) (k : String) (i : Item) : List (String × Item) :=
  overlayFields fields [(k, i)]

end Item

namespace Piece

mutual

def item : Piece → Item
  | value i => i
  | table _ body => .table (fields [] body)
  | tables elements => .tables (elementFields elements)

/-- The fields of a body, laid over others. -/
def fields (seen : List (String × Item)) : List (Label × Piece) → List (String × Item)
  | [] => seen
  | (l, p) :: rest => fields (Item.lay seen l.name (item p)) rest

def elementFields : List (List (Label × Piece)) → List (List (String × Item))
  | [] => []
  | b :: rest => fields [] b :: elementFields rest

end

end Piece

def Body.fields (body : Body) : List (String × Item) := Piece.fields [] body

end HintLine.Toml
