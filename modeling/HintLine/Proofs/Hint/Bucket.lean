import HintLine.Proofs.Hint.Grouping
import Mathlib.Algebra.Order.Ring.Nat
import Mathlib.Data.List.Count
import Mathlib.Data.List.Forall2

/-!
What a bucket keeps of a response: every hint, once, on its own line, with its label, character and kind. And all that
matters of the order of a response is how hints at one position stand to each other.
-/

set_option autoImplicit false

namespace HintLine

namespace Table

variable {κ α : Type} [DecidableEq κ] (f : α → Nat)

private theorem sum_map_set {l : List (κ × α)} (nodup : (l.map Prod.fst).Nodup) {k : κ} (there : k ∈ l.map Prod.fst)
    (a : α) :
    ((l.map fun e => (e.1, if e.1 = k then a else e.2)).map fun e => f e.2).sum + ((find k l).map f).getD 0 =
      (l.map fun e => f e.2).sum + f a := by
  induction l with
  | nil => cases there
  | cons e l ih =>
    obtain ⟨fresh, later⟩ := List.nodup_cons.1 nodup
    rw [List.map_cons, List.map_cons, List.map_cons, List.sum_cons, List.sum_cons, find]
    by_cases own : e.1 = k
    · have others : (l.map fun d => (d.1, if d.1 = k then a else d.2)) = l := by
        refine (List.map_congr_left fun d member => ?_).trans (List.map_id l)
        have other : d.1 ≠ k := fun same => fresh (own ▸ same ▸ List.mem_map_of_mem member)
        rw [if_neg other]
        rfl
      rw [others, if_pos own, if_pos own.symm]
      show f a + _ + f e.2 = f e.2 + _ + f a
      omega
    · have inside : k ∈ l.map Prod.fst := (List.mem_cons.1 there).resolve_left fun same => own same.symm
      have rest := ih later inside
      rw [if_neg own, if_neg fun same => own same.symm]
      show f e.2 + _ + _ = f e.2 + _ + f a
      omega

private theorem sum_values_insert (t : Table κ α) (k : κ) (a : α) :
    ((t.insert k a).values.map f).sum + ((t.get? k).map f).getD 0 = (t.values.map f).sum + f a := by
  unfold insert values
  split
  next there =>
    have replaced := sum_map_set f t.nodup (contains_iff.1 there) a
    simpa [get?, List.map_map, Function.comp_def] using replaced
  next absent =>
    have none : t.get? k = none := by simpa [contains] using absent
    rw [none]
    simp

end Table

/-- The texts that a label is put together from. -/
def Label.pieces : Label → List String
  | whole text => [text]
  | parts texts => texts

private theorem Label.toList_text (label : Label) : label.text.toList = label.pieces.flatMap String.toList := by
  cases label with
  | whole text => simp [Label.text, pieces]
  | parts texts => simp [Label.text, pieces]

namespace Bucket

/-- A hint that keeps what a server sent: the pieces of the label in order, the character and the kind. -/
structure Keeps (i : Inlay) (h : Hint) : Prop where
  label : h.label.toList = i.label.pieces.flatMap String.toList
  character : h.character = i.position.character
  kind : h.kind = i.kind

private theorem keeps_ofInlay (i : Inlay) : Keeps i (Hint.ofInlay i) := ⟨Label.toList_text i.label, rfl, rfl⟩

/-- How many hints a bucket has, on all lines together. -/
def size (b : Bucket) : Nat := (b.values.map List.length).sum

private theorem size_add (b : Bucket) (i : Inlay) : (b.add i).size = b.size + 1 := by
  have sum := Table.sum_values_insert List.length b i.line (b.line i.line ++ [Hint.ofInlay i])
  have old : ((b.get? i.line).map List.length).getD 0 = (b.line i.line).length := by
    unfold line
    cases b.get? i.line <;> rfl
  rw [old, List.length_append, List.length_singleton] at sum
  unfold size add
  omega

private theorem size_foldl_add (inlays : List Inlay) (b : Bucket) :
    (inlays.foldl add b).size = b.size + inlays.length := by
  induction inlays generalizing b with
  | nil => rfl
  | cons i inlays ih =>
    rw [List.foldl_cons, ih, size_add, List.length_cons]
    omega

private theorem size_ofInlays (inlays : List Inlay) : (ofInlays inlays).size = inlays.length := by
  rw [ofInlays, size_foldl_add, byCharacter, List.length_mergeSort]
  exact Nat.zero_add _

section Keyed

variable {α : Type} {key : α → Nat} {xs ys : List α}

private theorem key_head_le {x a : α} (sorted : (x :: xs).Pairwise fun a b => key a ≤ key b) (member : a ∈ x :: xs) :
    key x ≤ key a := by
  rcases List.mem_cons.1 member with rfl | later
  · exact Nat.le_refl _
  · exact List.rel_of_pairwise_cons sorted later

private theorem mem_of_filter_key (same : ∀ k, xs.filter (fun a => key a = k) = ys.filter fun a => key a = k) {a : α}
    (member : a ∈ xs) : a ∈ ys := by
  have level : a ∈ xs.filter fun b => key b = key a := List.mem_filter.2 ⟨member, decide_eq_true rfl⟩
  rw [same] at level
  exact (List.mem_filter.1 level).1

private theorem eq_of_filter_key (sorted : xs.Pairwise fun a b => key a ≤ key b)
    (ordered : ys.Pairwise fun a b => key a ≤ key b)
    (same : ∀ k, xs.filter (fun a => key a = k) = ys.filter fun a => key a = k) : xs = ys := by
  induction xs generalizing ys with
  | nil =>
    cases ys with
    | nil => rfl
    | cons y ys => exact (List.not_mem_nil (mem_of_filter_key (fun k => (same k).symm) List.mem_cons_self)).elim
  | cons x xs ih =>
    cases ys with
    | nil => exact (List.not_mem_nil (mem_of_filter_key same List.mem_cons_self)).elim
    | cons y ys =>
      -- Both heads have the least key, so each is the first of its list at that key.
      have level : key x = key y :=
        Nat.le_antisymm (key_head_le sorted (mem_of_filter_key (fun k => (same k).symm) List.mem_cons_self))
          (key_head_le ordered (mem_of_filter_key same List.mem_cons_self))
      have heads := same (key x)
      rw [List.filter_cons_of_pos (by simp), List.filter_cons_of_pos (by simp [level])] at heads
      obtain ⟨rfl, -⟩ := List.cons.inj heads
      have tails (k : Nat) : xs.filter (fun a => key a = k) = ys.filter fun a => key a = k := by
        have whole := same k
        rw [List.filter_cons, List.filter_cons] at whole
        split at whole
        · exact (List.cons.inj whole).2
        · exact whole
      rw [ih sorted.of_cons ordered.of_cons tails]

end Keyed

private theorem Lists.unique {inlays hints others : List Inlay} {n : Int} (lists : Lists inlays n hints)
    (relists : Lists inlays n others) : hints = others :=
  eq_of_filter_key lists.sorted relists.sorted fun k => (lists.stable k).trans (relists.stable k).symm

/-- A response with the same hints at each position, in the same order there. -/
def Reorders (inlays others : List Inlay) : Prop :=
  ∀ p, others.filter (fun i => i.position = p) = inlays.filter fun i => i.position = p

private theorem Reorders.perm {inlays others : List Inlay} (reorders : Reorders inlays others) :
    others.Perm inlays := by
  rw [List.perm_iff_count]
  intro i
  have own : decide (i.position = i.position) = true := decide_eq_true rfl
  rw [← List.count_filter (p := fun j => decide (j.position = i.position)) own,
    ← List.count_filter (l := inlays) (p := fun j => decide (j.position = i.position)) own, reorders]

private theorem position_eq_iff {p q : Position} : p = q ↔ p.character = q.character ∧ p.line = q.line := by
  cases p
  cases q
  simp [and_comm]

private theorem Reorders.lists {inlays others hints : List Inlay} (reorders : Reorders inlays others) {n : Int}
    (lists : Lists others n hints) : Lists inlays n hints where
  perm := lists.perm.trans (reorders.perm.filter _)
  sorted := lists.sorted
  stable character := by
    rw [lists.stable]
    by_cases place : ∃ p : Position, p.character = character ∧ (p.line : Int) + 1 = n
    · obtain ⟨p, rfl, rfl⟩ := place
      have here (i : Inlay) :
          (i.position.character = p.character ∧ i.line = (p.line : Int) + 1) ↔ i.position = p := by
        rw [position_eq_iff, Inlay.line]
        omega
      simpa only [here] using reorders p
    · have none (is : List Inlay) : is.filter (fun i => i.position.character = character ∧ i.line = n) = [] := by
        rw [List.filter_eq_nil_iff]
        intro i _ there
        exact place ⟨i.position, of_decide_eq_true there⟩
      rw [none, none]

private theorem contains_ofInlays {inlays : List Inlay} {n : Int} :
    (ofInlays inlays).contains n = true ↔ ∃ i ∈ inlays, i.line = n := by
  rw [Table.contains_iff, ← mem_lines_ofInlays, lines, List.mem_mergeSort]

private theorem eq_of_get?_ofInlays {inlays : List Inlay} {n : Int} {hints : List Hint}
    (found : (ofInlays inlays).get? n = some hints) : hints = (onLine inlays n).map Hint.ofInlay := by
  rw [← line_ofInlays, line, found]
  rfl

private theorem Reorders.get?_ofInlays {inlays others : List Inlay} (reorders : Reorders inlays others) (n : Int) :
    (ofInlays others).get? n = (ofInlays inlays).get? n := by
  have there : (ofInlays others).contains n = (ofInlays inlays).contains n := by
    rw [Bool.eq_iff_iff, contains_ofInlays, contains_ofInlays]
    simp only [reorders.perm.mem_iff]
  unfold Table.contains at there
  cases found : (ofInlays others).get? n with
  | none =>
    rw [found] at there
    exact (Option.isNone_iff_eq_none.1 (Option.isSome_eq_false_iff.1 there.symm)).symm
  | some hints =>
    rw [found] at there
    obtain ⟨kept, stored⟩ := Option.isSome_iff_exists.1 there.symm
    have listed := (reorders.lists (lists_onLine others n)).unique (lists_onLine inlays n)
    rw [stored, eq_of_get?_ofInlays found, eq_of_get?_ofInlays stored, listed]

/-- What grouping keeps. A bucket has a line just where the response has hints on it, and there it has these hints and
no others, each with its label, character and kind, in the order of their characters and at one character in that of
the response. So it has as many hints as the response; and two responses that differ only in the order of hints at
different positions have the same hints on each line. -/
theorem lossless (inlays : List Inlay) :
    (∀ n, (ofInlays inlays).contains n = true ↔ ∃ i ∈ inlays, i.line = n) ∧
      (∀ n hints, (ofInlays inlays).get? n = some hints →
        (∃ listed, Lists inlays n listed ∧ List.Forall₂ Keeps listed hints) ∧
          hints.Pairwise fun g h => g.character ≤ h.character) ∧
      (ofInlays inlays).size = inlays.length ∧
      ∀ others, Reorders inlays others →
        others.Perm inlays ∧ ∀ n, (ofInlays others).get? n = (ofInlays inlays).get? n := by
  refine ⟨fun n => contains_ofInlays, ?_, size_ofInlays inlays, ?_⟩
  · intro n hints found
    refine ⟨⟨onLine inlays n, lists_onLine inlays n, ?_⟩, (wellFormed_ofInlays inlays n hints found).2.2⟩
    rw [eq_of_get?_ofInlays found, List.forall₂_map_right_iff]
    exact List.forall₂_same.2 fun i _ => keeps_ofInlay i
  · intro others reorders
    exact ⟨reorders.perm, reorders.get?_ofInlays⟩

private def upper : Inlay := ⟨⟨2, 4, by decide, by decide⟩, .whole "x:", none⟩

private def lower : Inlay := ⟨⟨3, 4, by decide, by decide⟩, .parts [": ", "int"], some Hint.typeKind⟩

/-- Of two hints at one character of different lines either may come first. -/
theorem lossless_either_first :
    Reorders [upper, lower] [lower, upper] ∧
      ∀ n, (ofInlays [lower, upper]).get? n = (ofInlays [upper, lower]).get? n := by
  have apart : upper.position ≠ lower.position := by decide
  have reorders : Reorders [upper, lower] [lower, upper] := by
    intro p
    by_cases first : upper.position = p
    · have second : lower.position ≠ p := fun same => apart (first.trans same.symm)
      simp [first, second]
    · simp [List.filter_cons, first]
  obtain ⟨-, -, -, same⟩ := lossless [upper, lower]
  exact ⟨reorders, (same _ reorders).2⟩

end Bucket

end HintLine
