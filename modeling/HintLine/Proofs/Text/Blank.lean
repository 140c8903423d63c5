import HintLine.Text.Blank
import Mathlib.Data.List.DropRight

/-!
What stripping a text of its blanks leaves: the one part of it that has nothing but blanks around it and none at its own
ends.
-/

set_option autoImplicit false

namespace HintLine.Text.Blank

/-- Nothing but blanks. -/
def IsBlanks (s : List Char) : Prop := ∀ c ∈ s, isBlank c = true

/-- No blank at either end. -/
structure IsTight (s : List Char) : Prop where
  first : ∀ c ∈ s.head?, isBlank c = false
  last : ∀ c ∈ s.getLast?, isBlank c = false

private theorem stripEnd_eq_reverse (s : List Char) : stripEnd s = (stripStart s.reverse).reverse := rfl

private theorem isBlank_of_head?_stripStart {s : List Char} {c : Char} (first : c ∈ (stripStart s).head?) :
    isBlank c = false := by
  have stopped := List.head?_dropWhile_not isBlank s
  rw [Option.mem_def, stripStart] at first
  rwa [first] at stopped

private theorem stripStart_eq_self {s : List Char} (first : ∀ c ∈ s.head?, isBlank c = false) : stripStart s = s := by
  cases s with
  | nil => rfl
  | cons c s => exact List.dropWhile_cons_of_neg (by rw [first c rfl]; exact Bool.false_ne_true)

private theorem stripEnd_eq_self {s : List Char} (last : ∀ c ∈ s.getLast?, isBlank c = false) : stripEnd s = s := by
  rw [← List.head?_reverse] at last
  rw [stripEnd_eq_reverse, stripStart_eq_self last, List.reverse_reverse]

private theorem stripStart_append {left : List Char} (blank : IsBlanks left) (s : List Char) :
    stripStart (left ++ s) = stripStart s := List.dropWhile_append_of_pos blank

private theorem stripEnd_append {right : List Char} (blank : IsBlanks right) (s : List Char) :
    stripEnd (s ++ right) = stripEnd s := by
  have turned : IsBlanks right.reverse := fun c member => blank c (List.mem_reverse.1 member)
  rw [stripEnd_eq_reverse, List.reverse_append, stripStart_append turned, stripEnd_eq_reverse]

private theorem isTight_strip (s : List Char) : IsTight (strip s) where
  first c begins := by
    -- What is taken off the end leaves the first character as it was, unless it leaves none.
    obtain ⟨rest, left⟩ := List.head?_eq_some_iff.1 begins
    obtain ⟨right, whole⟩ : strip s <+: stripStart s := List.rdropWhile_prefix isBlank _
    rw [left] at whole
    exact isBlank_of_head?_stripStart (by rw [← whole]; rfl)
  last c ends := by
    rw [strip, stripEnd_eq_reverse, List.getLast?_reverse] at ends
    exact isBlank_of_head?_stripStart ends

private theorem exists_strip (s : List Char) :
    ∃ left right, IsBlanks left ∧ IsBlanks right ∧ s = left ++ strip s ++ right := by
  refine ⟨s.takeWhile isBlank, (stripStart s).rtakeWhile isBlank, fun c => List.mem_takeWhile_imp,
    fun c => List.mem_rtakeWhile_imp, ?_⟩
  calc s = s.takeWhile isBlank ++ stripStart s := List.takeWhile_append_dropWhile.symm
    _ = s.takeWhile isBlank ++ (strip s ++ (stripStart s).rtakeWhile isBlank) :=
      congrArg _ (List.rdropWhile_append_rtakeWhile (p := isBlank) (l := stripStart s)).symm
    _ = s.takeWhile isBlank ++ strip s ++ (stripStart s).rtakeWhile isBlank := (List.append_assoc ..).symm

private theorem strip_pad {left right core : List Char} (before : IsBlanks left) (after : IsBlanks right)
    (tight : IsTight core) : strip (left ++ core ++ right) = core := by
  rw [strip, List.append_assoc, stripStart_append before]
  cases core with
  | nil =>
    -- All is blank, and nothing is left for the end.
    have none : stripStart right = [] := List.dropWhile_eq_nil_iff.2 after
    rw [List.nil_append, none]
    rfl
  | cons c core =>
    have begins : stripStart (c :: core ++ right) = c :: core ++ right := stripStart_eq_self tight.first
    rw [begins, stripEnd_append after, stripEnd_eq_self tight.last]

theorem strip_eq_iff {s core : List Char} :
    strip s = core ↔ IsTight core ∧ ∃ left right, IsBlanks left ∧ IsBlanks right ∧ s = left ++ core ++ right := by
  constructor
  · rintro rfl
    exact ⟨isTight_strip s, exists_strip s⟩
  · rintro ⟨tight, left, right, before, after, rfl⟩
    exact strip_pad before after tight

end HintLine.Text.Blank
