import HintLine.Hint.Bucket

/-!
What is in the bucket of a response. A stable sort of the whole response leaves on each line what a stable sort of
that line alone would leave, so the bucket has a line just where the response has one, with its hints in order.
-/

set_option autoImplicit false

namespace HintLine.Bucket

section Stable

variable {α : Type} {le : α → α → Bool} (trans : ∀ a b c, le a b = true → le b c = true → le a c = true)
  (total : ∀ a b, (le a b || le b a) = true)

include trans total

private theorem mergeSort_cons_eq (a : α) (l : List α) :
    (a :: l).mergeSort le =
      (l.mergeSort le).filter (fun b => !le a b) ++ a :: (l.mergeSort le).filter (fun b => le a b) := by
  obtain ⟨front, back, sorted, rest, before⟩ := List.mergeSort_cons trans total a l
  have order := List.pairwise_mergeSort trans total (a :: l)
  rw [sorted] at order
  have behind : ∀ b ∈ back, le a b = true := fun b member =>
    List.rel_of_pairwise_cons (List.pairwise_append.1 order).2.1 member
  have keepFront : front.filter (fun b => !le a b) = front := List.filter_eq_self.2 before
  have dropFront : front.filter (fun b => le a b) = [] := by
    rw [List.filter_eq_nil_iff]
    intro b member
    simpa using before b member
  have dropBack : back.filter (fun b => !le a b) = [] := by
    rw [List.filter_eq_nil_iff]
    intro b member
    simp [behind b member]
  have keepBack : back.filter (fun b => le a b) = back := List.filter_eq_self.2 behind
  rw [sorted, rest, List.filter_append, List.filter_append, keepFront, dropFront, dropBack, keepBack,
    List.append_nil, List.nil_append]

/-- A stable sort commutes with taking some of the elements. -/
private theorem filter_mergeSort (p : α → Bool) (l : List α) :
    (l.mergeSort le).filter p = (l.filter p).mergeSort le := by
  induction l with
  | nil => simp
  | cons a l ih =>
    cases chosen : p a with
    | false =>
      obtain ⟨front, back, sorted, rest, -⟩ := List.mergeSort_cons trans total a l
      rw [rest, List.filter_append] at ih
      rw [sorted, List.filter_append, List.filter_cons_of_neg (by simp [chosen]),
        List.filter_cons_of_neg (by simp [chosen]), ih]
    | true =>
      -- Taking some elements commutes with cutting the list where the first one goes.
      have swap (q : α → Bool) : ((l.mergeSort le).filter q).filter p = ((l.filter p).mergeSort le).filter q := by
        rw [← ih, List.filter_filter, List.filter_filter]
        exact List.filter_congr fun b _ => Bool.and_comm (p b) (q b)
      rw [mergeSort_cons_eq trans total, List.filter_append, List.filter_cons_of_pos chosen,
        List.filter_cons_of_pos chosen, mergeSort_cons_eq trans total, swap, swap]

end Stable

private theorem character_trans (i j k : Inlay) (first : decide (i.position.character ≤ j.position.character) = true)
    (second : decide (j.position.character ≤ k.position.character) = true) :
    decide (i.position.character ≤ k.position.character) = true := by
  simp only [decide_eq_true_eq] at *
  omega

private theorem character_total (i j : Inlay) :
    (decide (i.position.character ≤ j.position.character) ||
      decide (j.position.character ≤ i.position.character)) = true := by
  simp only [Bool.or_eq_true, decide_eq_true_eq]
  omega

/-- The hints of a line in a response, ordered by character; those at one character stay in the order of the
response. -/
def onLine (inlays : List Inlay) (n : Int) : List Inlay := byCharacter (inlays.filter fun i => i.line = n)

private theorem filter_byCharacter (inlays : List Inlay) (n : Int) :
    (byCharacter inlays).filter (fun i => i.line = n) = onLine inlays n :=
  filter_mergeSort character_trans character_total _ inlays

theorem onLine_eq_nil_iff {inlays : List Inlay} {n : Int} :
    onLine inlays n = [] ↔ ∀ i ∈ inlays, i.line ≠ n := by
  rw [← List.length_eq_zero_iff, onLine, byCharacter, List.length_mergeSort, List.length_eq_zero_iff,
    List.filter_eq_nil_iff]
  simp

theorem pairwise_onLine (inlays : List Inlay) (n : Int) :
    (onLine inlays n).Pairwise fun i j => i.position.character ≤ j.position.character := by
  have order := List.pairwise_mergeSort character_trans character_total (inlays.filter fun i => i.line = n)
  exact order.imp fun {i j} before => of_decide_eq_true before

private theorem filter_character_onLine (inlays : List Inlay) (n : Int) (character : Nat) :
    (onLine inlays n).filter (fun i => i.position.character = character) =
      inlays.filter fun i => i.position.character = character ∧ i.line = n := by
  rw [onLine, byCharacter, filter_mergeSort character_trans character_total, List.filter_filter]
  have level : ((inlays.filter fun i => decide (i.position.character = character) && decide (i.line = n)).Pairwise
      fun i j => decide (i.position.character ≤ j.position.character) = true) := by
    refine List.pairwise_of_forall_mem_list ?_
    intro i first j second
    simp only [List.mem_filter, Bool.and_eq_true, decide_eq_true_eq] at first second ⊢
    omega
  rw [List.mergeSort_of_pairwise level]
  exact List.filter_congr fun i _ => by simp

/-- Hints listed as a line shows them: those of the line and no others, in the order of their characters, and at one
character in the order of the response. -/
structure Lists (inlays : List Inlay) (n : Int) (hints : List Inlay) : Prop where
  perm : hints.Perm (inlays.filter fun i => i.line = n)
  sorted : hints.Pairwise fun i j => i.position.character ≤ j.position.character
  stable : ∀ character, hints.filter (fun i => i.position.character = character) =
    inlays.filter fun i => i.position.character = character ∧ i.line = n

theorem lists_onLine (inlays : List Inlay) (n : Int) : Lists inlays n (onLine inlays n) where
  perm := List.mergeSort_perm _ _
  sorted := pairwise_onLine inlays n
  stable := filter_character_onLine inlays n

private theorem line_foldl_add (inlays : List Inlay) (b : Bucket) (n : Int) :
    (inlays.foldl add b).line n = b.line n ++ (inlays.filter fun i => i.line = n).map Hint.ofInlay := by
  induction inlays generalizing b with
  | nil => simp
  | cons i inlays ih =>
    rw [List.foldl_cons, ih, line_add]
    by_cases own : i.line = n
    · simp [own]
    · simp [own, Ne.symm own]

theorem line_ofInlays (inlays : List Inlay) (n : Int) :
    (ofInlays inlays).line n = (onLine inlays n).map Hint.ofInlay := by
  rw [ofInlays, line_foldl_add, filter_byCharacter, line_empty, List.nil_append]

/-- A bucket as it may be kept: lines are counted from one, each has a hint, and hints stand in the order of
their characters. -/
def WellFormed (b : Bucket) : Prop :=
  ∀ n hints, b.get? n = some hints →
    1 ≤ n ∧ hints ≠ [] ∧ hints.Pairwise fun g h => g.character ≤ h.character

theorem wellFormed_empty : WellFormed Table.empty := by
  intro n hints found
  cases found

private theorem get?_foldl_add (inlays : List Inlay) {b : Bucket}
    (filled : ∀ n hints, b.get? n = some hints → 1 ≤ n ∧ hints ≠ []) {n : Int} {hints : List Hint}
    (found : (inlays.foldl add b).get? n = some hints) : 1 ≤ n ∧ hints ≠ [] := by
  induction inlays generalizing b with
  | nil => exact filled n hints found
  | cons i inlays ih =>
    refine ih ?_ found
    intro m hs stored
    rw [add, Table.get?_insert] at stored
    split at stored
    next own =>
      obtain rfl := Option.some.inj stored
      refine ⟨?_, by simp⟩
      rw [own, Inlay.line]
      omega
    next => exact filled m hs stored

theorem wellFormed_ofInlays (inlays : List Inlay) : WellFormed (ofInlays inlays) := by
  intro n hints found
  have filled := get?_foldl_add (byCharacter inlays) (b := Table.empty) (fun m hs stored => by cases stored) found
  refine ⟨filled.1, filled.2, ?_⟩
  have same : hints = (onLine inlays n).map Hint.ofInlay := by
    rw [← line_ofInlays, line, found]
    rfl
  rw [same, List.pairwise_map]
  exact (pairwise_onLine inlays n).imp fun {i j} before => Int.ofNat_le.2 before

theorem pairwise_lines (b : Bucket) : b.lines.Pairwise (· < ·) := by
  have ascending : b.lines.Pairwise fun m n => decide (m ≤ n) = true :=
    List.pairwise_mergeSort (fun l m n first second => by simp only [decide_eq_true_eq] at *; omega)
      (fun m n => by simp only [Bool.or_eq_true, decide_eq_true_eq]; omega) _
  have once : b.lines.Nodup := (List.mergeSort_perm _ _).nodup_iff.2 b.nodup
  refine (ascending.and once).imp ?_
  rintro m n ⟨before, other⟩
  exact Int.lt_iff_le_and_ne.2 ⟨of_decide_eq_true before, other⟩

theorem line_ne_nil_iff {inlays : List Inlay} {n : Int} :
    (ofInlays inlays).line n ≠ [] ↔ ∃ i ∈ inlays, i.line = n := by
  rw [line_ofInlays, Ne, List.map_eq_nil_iff, onLine_eq_nil_iff]
  simp

theorem mem_lines_ofInlays {inlays : List Inlay} {n : Int} :
    n ∈ (ofInlays inlays).lines ↔ ∃ i ∈ inlays, i.line = n := by
  rw [← line_ne_nil_iff, lines, List.mem_mergeSort, ← Table.contains_iff, Table.contains, line]
  cases found : (ofInlays inlays).get? n with
  | none => simp
  | some hints => simpa using (wellFormed_ofInlays inlays n hints found).2.1

end HintLine.Bucket
