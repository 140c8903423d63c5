/-!
Names of buffers and clients. A host may number them, name them, or leave them out.
-/

set_option autoImplicit false

namespace HintLine

/-- What a buffer or a client is called. -/
inductive Ident where
  | absent
  | number (n : Int)
  | name (s : String)
  deriving DecidableEq, Repr

namespace Ident

instance : Inhabited Ident := ⟨absent⟩

def text : Ident → String
  | absent => "None"
  | number n => toString n
  | name s => s

/-- Numbers in their order, then names in theirs; the missing one comes first. -/
def le : Ident → Ident → Bool
  | absent, _ => true
  | _, absent => false
  | number a, number b => a ≤ b
  | number _, name _ => true
  | name _, number _ => false
  | name s, name t => s = t || s < t

def sort (ids : List Ident) : List Ident := ids.mergeSort le

/-- Entries in the order of the identifiers they belong to. -/
def sortEntries {α : Type} (entries : List (Ident × α)) : List (Ident × α) :=
  entries.mergeSort fun a b => le a.1 b.1

end Ident

end HintLine
