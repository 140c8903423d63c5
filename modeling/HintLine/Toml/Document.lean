import HintLine.Text.Utf8
import HintLine.Toml.Statement

/-!
A TOML file as a table. A header and the entries below it make a section. The sections that follow a section and
whose keys go on from its key are read into its table; the table of any other section is put under its key from
the top. Elements of one array that follow each other are one piece.
-/

set_option autoImplicit false

namespace HintLine.Toml

/-- A header with the entries below it. -/
structure Section where
  element : Bool
  key : Key
  entries : List (Key × Item)

namespace Section

/-- The entries in front of all headers, and the sections of some statements. -/
def split : List Statement → List (Key × Item) × List Section
  | [] => ([], [])
  | .entry k i :: rest => let (es, ss) := split rest; ((k, i) :: es, ss)
  | .header k :: rest => let (es, ss) := split rest; ([], ⟨false, k, es⟩ :: ss)
  | .element k :: rest => let (es, ss) := split rest; ([], ⟨true, k, es⟩ :: ss)

def isBelow (s : Section) (k : Key) : Bool := k.isPrefixOf s.key && k.length < s.key.length

/-- The body of some entries, each added to those before it. -/
def entryBody (entries : List (Key × Item)) : Option Body :=
  entries.foldlM (fun b (k, i) => b.putInside k i) []

mutual

/-- The body of a section's table with all sections below it, and the sections that remain. -/
def body : (fuel : Nat) → Section → List Section → Option (Body × List Section)
  | 0, _, _ => none
  | fuel + 1, s, rest => do
    let (b, rest) ← below fuel s.key (← entryBody s.entries) rest
    if b.isSound then some (b, rest) else none

/-- A body with the sections below a key added to it, and the sections that remain. -/
def below : (fuel : Nat) → Key → Body → List Section → Option (Body × List Section)
  | 0, _, _, _ => none
  | fuel + 1, k, b, rest =>
    match rest with
    | [] => some (b, [])
    | s :: more =>
      if s.isBelow k then do
        let ((l, p), rest) ← piece fuel k s more
        below fuel k (← b.addInside false (Body.fuel p b) l p) rest
      else some (b, s :: more)

/-- What a section adds to the table of a key. The parts of its own key that lie between are on the way. -/
def piece : (fuel : Nat) → Key → Section → List Section → Option ((Label × Piece) × List Section)
  | 0, _, _, _ => none
  | fuel + 1, k, s, rest => do
    let (b, rest) ← body fuel s rest
    let names := s.key.drop k.length
    if !s.element then (Piece.under false names (.table false b)).map (·, rest)
    else if names.length = 1 then
      let (bs, rest) ← elements fuel s.key rest
      (Piece.under false names (.tables (b :: bs))).map (·, rest)
    else (Piece.under false names (.tables [b])).map (·, rest)

def elements : (fuel : Nat) → Key → List Section → Option (List Body × List Section)
  | 0, _, _ => none
  | fuel + 1, k, rest =>
    match rest with
    | [] => some ([], [])
    | s :: more =>
      if s.element && s.key = k then do
        let (b, rest) ← body fuel s more
        let (bs, rest) ← elements fuel k rest
        some (b :: bs, rest)
      else some ([], s :: more)

end

def putAll : (fuel : Nat) → Body → List Section → Option Body
  | 0, _, _ => none
  | _ + 1, b, [] => some b
  | fuel + 1, b, s :: rest => do
    let ((l, p), rest) ← piece (4 * rest.length + 8) [] s rest
    putAll fuel (← b.add true (Body.fuel p b) l p) rest

end Section

def Body.ofStatements? (statements : List Statement) : Option Body := do
  let (entries, sections) := Section.split statements
  let b ← entries.foldlM (fun b (k, i) => Body.put k i b) []
  Section.putAll (sections.length + 1) b sections

def parse? (text : List Char) : Option (List (String × Item)) := do
  let statements ← (Statement.all (text.length + 1) text).toOption
  let body ← Body.ofStatements? statements
  return body.fields

/-- The fields of the table that a file holds; the file has to be UTF-8. -/
def ofBytes? (bytes : List UInt8) : Option (List (String × Item)) := (Text.Utf8.decode? bytes).bind parse?

end HintLine.Toml
