import HintLine.Hint.Basic
import HintLine.Table

/-!
Hints by line. The hints of a response are ordered by character, those at one character staying in the order
of the response, and then laid into the bucket of their line.
-/

set_option autoImplicit false

namespace HintLine

/-- The hints of each line that has any; lines are counted from one. -/
abbrev Bucket := Table Int (List Hint)

namespace Bucket

def line (b : Bucket) (n : Int) : List Hint := (b.get? n).getD []

/-- The bucket with one more hint at the end of its line. -/
def add (b : Bucket) (i : Inlay) : Bucket := b.insert i.line (b.line i.line ++ [Hint.ofInlay i])

/-- Hints in the order of their characters; a stable order. -/
def byCharacter (inlays : List Inlay) : List Inlay :=
  inlays.mergeSort fun a b => a.position.character ≤ b.position.character

def ofInlays (inlays : List Inlay) : Bucket := (byCharacter inlays).foldl add Table.empty

/-- The numbers of the lines that have hints, in order. -/
def lines (b : Bucket) : List Int := b.keys.mergeSort fun m n => m ≤ n

/-- The lines in order, each with its hints. -/
def sorted (b : Bucket) : List (Int × List Hint) := b.entries.mergeSort fun a b => a.1 ≤ b.1

@[simp] theorem line_empty (n : Int) : line Table.empty n = [] := rfl

theorem line_add (b : Bucket) (i : Inlay) (n : Int) :
    (b.add i).line n = if n = i.line then b.line n ++ [Hint.ofInlay i] else b.line n := by
  unfold add line
  rw [Table.get?_insert]
  split
  next h => subst h; rfl
  · rfl

end Bucket

end HintLine
