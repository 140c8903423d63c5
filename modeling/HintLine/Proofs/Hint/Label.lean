import HintLine.Hint.Label

/-!
Values made short. Where a value is cut, its lines are joined by single spaces first, each but the first without the
spaces it begins with. What comes out is short and of one line, and is not changed by being shortened again.
-/

set_option autoImplicit false

namespace HintLine.Label

/-- A line without the spaces it begins with. -/
def unindented (line : List Char) : List Char := line.dropWhile (· = ' ')

/-- The lines of a text joined by single spaces, each but the first without the spaces it begins with. -/
def joined (s : List Char) : List Char :=
  match s.splitOn '\n' with
  | [] => []
  | first :: rest => [' '].intercalate (first :: rest.map unindented)

/-- Going through a text character by character joins its lines. The flag says that the first of them, too, is taken
without the spaces it begins with. -/
private theorem joinLines_eq (skipping : Bool) {s first : List Char} {rest : List (List Char)}
    (lines : s.splitOn '\n' = first :: rest) :
    joinLines skipping s =
      [' '].intercalate ((if skipping then unindented first else first) :: rest.map unindented) := by
  induction s generalizing skipping first rest with
  | nil =>
    rw [List.splitOn_nil] at lines
    obtain ⟨rfl, rfl⟩ := List.cons.inj lines
    cases skipping <;> rfl
  | cons c s ih =>
    obtain ⟨next, later, split⟩ := List.exists_cons_of_ne_nil (List.splitOn_ne_nil '\n' s)
    rw [List.splitOn_cons_eq_if_modifyHead, split] at lines
    rw [joinLines]
    by_cases feed : c = '\n'
    · -- A line ends here: it is empty from here on, and the next one loses its spaces.
      subst feed
      obtain ⟨rfl, rfl⟩ := List.cons.inj lines
      rw [if_pos rfl, ih true split]
      cases skipping <;> simp [unindented, List.intercalate_cons_cons]
    · rw [if_neg (by simpa using feed)] at lines
      obtain ⟨rfl, rfl⟩ := List.cons.inj lines
      rw [if_neg feed]
      by_cases skipped : skipping = true ∧ c = ' '
      · obtain ⟨rfl, rfl⟩ := skipped
        simp [unindented, ih true split]
      · have kept : (if skipping = true then unindented (c :: next) else c :: next) = c :: next := by
          cases skipping <;> simp_all [unindented]
        rw [kept, if_neg (by simpa using skipped), ih false split]
        cases later <;> simp [List.intercalate_cons_cons]

private theorem joinLines_eq_joined (s : List Char) : joinLines false s = joined s := by
  obtain ⟨first, rest, lines⟩ := List.exists_cons_of_ne_nil (List.splitOn_ne_nil '\n' s)
  rw [joinLines_eq false lines, joined, lines]
  rfl

private theorem not_mem_joinLines (skipping : Bool) (s : List Char) : '\n' ∉ joinLines skipping s := by
  induction s generalizing skipping with
  | nil => exact List.not_mem_nil
  | cons c s ih =>
    rw [joinLines]
    split
    next =>
      intro member
      rcases List.mem_cons.1 member with same | later
      · revert same
        decide
      · exact ih true later
    next other =>
      split
      next => exact ih true
      next =>
        intro member
        rcases List.mem_cons.1 member with same | later
        · exact other same.symm
        · exact ih false later

/-- A text that needs no shortening: it has at most twenty characters, and they are all in one line. -/
def IsBrief (text : String) : Prop := text.length ≤ 20 ∧ '\n' ∉ text.toList

instance (text : String) : Decidable (IsBrief text) := inferInstanceAs (Decidable (_ ∧ _))

private theorem isBrief_iff (text : String) :
    IsBrief text ↔ ¬ (maxLength < text.toList.length || text.toList.contains '\n') = true := by
  rw [IsBrief, ← String.length_toList, Bool.or_eq_true, decide_eq_true_iff, List.contains_iff_mem, not_or, Nat.not_lt]
  rfl

private theorem shorten_of_isBrief {text : String} (brief : IsBrief text) : shorten text = text := by
  rw [shorten, shortened, if_neg ((isBrief_iff text).1 brief), String.ofList_toList]

private theorem shorten_of_not_isBrief {text : String} (other : ¬ IsBrief text) :
    shorten text = String.ofList ((joined text.toList).take 17) ++ "..." := by
  have cut := Decidable.not_not.1 (mt (isBrief_iff text).2 other)
  rw [shorten, shortened, if_pos cut, joinLines_eq_joined, String.ofList_append]
  rfl

theorem isBrief_shorten (text : String) : IsBrief (shorten text) := by
  by_cases brief : IsBrief text
  · rwa [shorten_of_isBrief brief]
  · rw [shorten_of_not_isBrief brief]
    constructor
    · have := List.length_take_le 17 (joined text.toList)
      simp only [String.length_append, String.length_ofList]
      exact Nat.add_le_add_right this 3
    · intro member
      rw [String.toList_append, String.toList_ofList, List.mem_append] at member
      rcases member with kept | dots
      · rw [← joinLines_eq_joined] at kept
        exact not_mem_joinLines false _ (List.mem_of_mem_take kept)
      · revert dots
        decide

/-- A value is shown as it is just if it is brief. Any other one has its lines joined, and is cut after seventeen
characters, which three dots follow. What is shown is brief, and would be shown as it is. -/
theorem shorten_brief (text : String) :
    IsBrief (shorten text) ∧
      (shorten text = text ↔ IsBrief text) ∧
      (shorten text =
        if IsBrief text then text else String.ofList ((joined text.toList).take 17) ++ "...") ∧
      shorten (shorten text) = shorten text := by
  refine ⟨isBrief_shorten text, ⟨?_, shorten_of_isBrief⟩, ?_, shorten_of_isBrief (isBrief_shorten text)⟩
  · intro same
    rw [← same]
    exact isBrief_shorten text
  · split
    next brief => exact shorten_of_isBrief brief
    next other => exact shorten_of_not_isBrief other

/-- Blank lines leave a space each, and so does a line feed at the end. -/
example : shorten "a\n\n  b \n" = "a  b  ..." := by decide

end HintLine.Label
