import HintLine.Text.Pieces
import HintLine.Text.Quoted
import HintLine.Text.Utf8

/-!
Paths of files. A path has parts, parted by slashes; empty parts and single dots do not count, two dots do.
It may start at the root, and exactly two slashes in front are a root of their own. A path from the root has
an address for the file protocol, in which most characters are written as the codes of their bytes.
-/

set_option autoImplicit false

namespace HintLine

/-- Where a path starts. -/
inductive Path.Start where
  | here
  | root
  | doubleRoot
  deriving DecidableEq, Repr

/-- A path. -/
structure Path where
  start : Path.Start
  parts : List String
  deriving DecidableEq, Repr

namespace Path

def Start.text : Start → String
  | here => ""
  | root => "/"
  | doubleRoot => "//"

def startOf : List Char → Start
  | '/' :: '/' :: '/' :: _ => .root
  | '/' :: '/' :: _ => .doubleRoot
  | '/' :: _ => .root
  | _ => .here

def ofString (s : String) : Path :=
  { start := startOf s.toList
    parts := ((Text.pieces '/' s.toList).filter fun p => p ≠ [] && p ≠ ['.']).map String.ofList }

/-- A path as a text; one without parts that does not start at a root is a dot. -/
def text (p : Path) : String :=
  if p.start = .here && p.parts.isEmpty then "." else p.start.text ++ String.intercalate "/" p.parts

/-- A path as seen from the root, if the parts of the current directory are `cwd`. -/
def absolute (cwd : List String) (p : Path) : Path :=
  match p.start with
  | .here => ⟨.root, cwd ++ p.parts⟩
  | _ => p

/-- The parts of a path in which each pair of dots has taken the part before it away, wherever that leads. -/
def settled (parts : List String) : List String :=
  parts.foldl (fun done part => if part = ".." then done.dropLast else done ++ [part]) []

def parent (p : Path) : Path := { p with parts := p.parts.dropLast }

def name (p : Path) : String := p.parts.getLast?.getD ""

/-- The name from its last dot on, if there is something on both sides of that dot. -/
def suffix (p : Path) : String :=
  let cs := p.name.toList.reverse
  let tail := cs.takeWhile (· ≠ '.')
  let front := cs.drop (tail.length + 1)
  if tail.isEmpty || front.isEmpty then "" else String.ofList ('.' :: tail.reverse)

def isPlain (b : UInt8) : Bool :=
  (0x41 ≤ b && b ≤ 0x5A) || (0x61 ≤ b && b ≤ 0x7A) || (0x30 ≤ b && b ≤ 0x39) ||
    b = 0x5F || b = 0x2E || b = 0x2D || b = 0x7E || b = 0x2F

def addressByte (b : UInt8) : List Char :=
  if isPlain b then [Char.ofNat b.toNat]
  else '%' :: (Text.Quoted.hex 2 b.toNat).map Char.toUpper

def uri (p : Path) : String :=
  "file://" ++ String.ofList ((Text.Utf8.encode p.text.toList).flatMap addressByte)

end Path

end HintLine
