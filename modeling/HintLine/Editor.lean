import HintLine.Act
import HintLine.Path
import HintLine.Table
import HintLine.Text.Lines

/-!
An editor that keeps its buffers in memory. Buffers are numbered from one and a number is never given twice;
the buffer opened last is the current one. When a buffer is closed the listeners are told in the order in which
they came.
-/

set_option autoImplicit false

namespace HintLine

/-- An open file. -/
structure Buffer where
  id : Nat
  uri : String
  text : String
  languageId : String
  version : Nat
  deriving DecidableEq, Repr

namespace Buffer

def ident (b : Buffer) : Ident := .number b.id

def lineCount (b : Buffer) : Nat := Text.Lines.count b.text.toList

end Buffer

/-- The place of the cursor: lines count from one, columns from zero. -/
structure Cursor where
  line : Int
  column : Int
  deriving DecidableEq, Repr

def Cursor.start : Cursor := ⟨1, 0⟩

/-- The buffers that are open, the current one if there is one, the cursor, the next number to be given, and
the listeners to closings. -/
structure Editor where
  buffers : Table Ident Buffer
  current : Ident
  cursor : Cursor
  nextId : Nat
  listeners : List String

namespace Editor

def new : Editor := ⟨Table.empty, .absent, .start, 1, []⟩

/-- The buffer of a name, if it is open. -/
def buffer? (ed : Editor) (id : Ident) : Option Buffer := ed.buffers.get? id

def isOpen (ed : Editor) (id : Ident) : Bool := ed.buffers.contains id

/-- The editor with one more buffer, which becomes the current one. -/
def opened (ed : Editor) (uri text languageId : String) : Editor × Buffer :=
  let b : Buffer := ⟨ed.nextId, uri, text, languageId, 0⟩
  ({ ed with
      buffers := ed.buffers.insert b.ident b
      current := b.ident
      cursor := .start
      nextId := ed.nextId + 1 }, b)

def closed (ed : Editor) (id : Ident) : Editor :=
  { ed with
    buffers := ed.buffers.erase id
    current := if ed.current = id then .absent else ed.current }

/-- Opens a file as a buffer; `cwd` has the parts of the working directory. -/
def openBuffer (cwd : List String) (path : Path) (text languageId : String) : Act Editor Buffer := do
  let (after, b) := (← Act.get).opened (path.absolute cwd).uri text languageId
  Act.modify fun _ => after
  Act.log .trace s!"Opened buffer {b.id}: {b.uri}"
  return b

def closeBuffer (id : Ident) : Act Editor Unit := do
  Act.modify (closed · id)
  Act.emits ((← Act.get).listeners.map fun l => .closed l id)

def listen (listener : String) : Act Editor Unit :=
  Act.modify fun ed => { ed with listeners := ed.listeners ++ [listener] }

def setCurrent (id : Ident) : Act Editor Unit := do
  if (← Act.get).isOpen id then Act.modify fun ed => { ed with current := id }
  else Act.fail (.notOpened id)

def setCursor (cursor : Cursor) : Act Editor Unit := Act.modify fun ed => { ed with cursor }

theorem buffer?_closed (ed : Editor) (i j : Ident) :
    (ed.closed i).buffer? j = if j = i then none else ed.buffer? j := Table.get?_erase ed.buffers j i

end Editor

end HintLine
