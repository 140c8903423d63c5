/-!
How much two words have in common. The longest run of characters that both contain is taken out of both, and
the same is done with what stands before it and with what stands behind it; the more characters the runs have
together, compared with the words, the more alike the words are.
-/

set_option autoImplicit false

namespace HintLine.Text.Similar

/-- How many characters two texts begin with in common. -/
def common : List Char → List Char → Nat
  | a :: as, b :: bs => if a = b then common as bs + 1 else 0
  | _, _ => 0

/-- A run that two texts have in common: where it starts in each, and how long it is. -/
structure Run where
  first : Nat
  second : Nat
  length : Nat
  deriving DecidableEq, Repr

/-- The longer of two runs; of two equally long ones the earlier. -/
def Run.longer (r s : Run) : Run := if r.length < s.length then s else r

/-- The longest run; of several the one that starts first in the first text, and then in the second. -/
def longest (a b : List Char) : Run :=
  (List.range a.length).foldl (fun best i =>
    (List.range b.length).foldl (fun best j =>
      best.longer ⟨i, j, common (a.drop i) (b.drop j)⟩) best) ⟨0, 0, 0⟩

/-- How many characters the runs have together, at most `fuel` runs deep. -/
def overlapWithin : (fuel : Nat) → (a b : List Char) → Nat
  | 0, _, _ => 0
  | fuel + 1, a, b =>
    let r := longest a b
    if r.length = 0 then 0
    else
      overlapWithin fuel (a.take r.first) (b.take r.second) + r.length +
        overlapWithin fuel (a.drop (r.first + r.length)) (b.drop (r.second + r.length))

def overlap (a b : List Char) : Nat := overlapWithin a.length a b

/-- A candidate with what it has in common with a word, and the length of both. -/
structure Candidate where
  name : String
  shared : Nat
  total : Nat
  deriving DecidableEq, Repr

def Candidate.ofName (word name : String) : Candidate :=
  ⟨name, overlap name.toList word.toList, name.length + word.length⟩

/-- Whether at least three fifths of the characters are shared. -/
def Candidate.isClose (c : Candidate) : Bool := 3 * c.total ≤ 10 * c.shared

/-- Whether a candidate is at least as good as another one; of two equally good ones the later name counts. -/
def Candidate.atLeast (c d : Candidate) : Bool :=
  d.shared * c.total < c.shared * d.total ||
    (d.shared * c.total = c.shared * d.total && d.name ≤ c.name)

def limit : Nat := 3

/-- The names that are most like a word, the best one first. -/
def closest (word : String) (names : List String) : List String :=
  ((((names.map (Candidate.ofName word)).filter Candidate.isClose).mergeSort Candidate.atLeast).take limit).map
    Candidate.name

end HintLine.Text.Similar
