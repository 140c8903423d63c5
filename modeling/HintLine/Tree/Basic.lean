import HintLine.Act
import HintLine.Table
import HintLine.Text.Utf8

/-!
Syntax trees of buffers. All that is asked of a tree is the node at a point, and of a node the bytes it covers.
A forest keeps the latest tree of each buffer.
-/

set_option autoImplicit false

namespace HintLine

/-- A node of a syntax tree. Of some nodes the text is not known. -/
structure Node where
  bytes : Option (List UInt8)
  deriving DecidableEq, Repr

/-- A syntax tree, as the smallest node at each point; rows and columns count from zero, columns in bytes. -/
structure Tree where
  node? : (row column : Int) → Option Node

def Tree.uniform (bytes : List UInt8) : Tree := ⟨fun _ _ => some ⟨some bytes⟩⟩

abbrev Lookup (σ : Type) := (buffer : Ident) → (row column : Int) → Act σ (Option String)

abbrev Forest := Table Ident Tree

namespace Forest

def bytes? (f : Forest) (buffer : Ident) (row column : Int) : Option (List UInt8) :=
  ((f.get? buffer).bind fun t => t.node? row column).bind Node.bytes

/-- The text of the node at a point; bytes that are no text show as replacement characters. -/
def text? (f : Forest) (buffer : Ident) (row column : Int) : Option String :=
  (f.bytes? buffer row column).map fun b => String.ofList (Text.Utf8.decodeLossy b)

/-- Looks a text up; where there is none, the log says so. -/
def nodeText {σ : Type} (f : Forest) : Lookup σ := fun buffer row column => do
  match f.text? buffer row column with
  | some text => return some text
  | none =>
    Act.log .trace s!"No syntax node at {row}:{column} in buffer {buffer.text}"
    return none

end Forest

end HintLine
