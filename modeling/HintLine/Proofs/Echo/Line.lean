import HintLine.Echo.Line
import HintLine.Proofs.Act
import Mathlib.Data.List.Forall2

/-!
The echo line as a pattern: delimiters and contents in turn. Each content shows one hint; of the delimiters the one
is marked before which stand as many hints as lie at the cursor or before it.
-/

set_option autoImplicit false

namespace HintLine

theorem Forest.finds_nodeText {σ : Type} (f : Forest) (b : Ident) (row column : Int) :
    (f.nodeText b row column : Act σ (Option String)).Finds fun _ => True := by
  unfold Forest.nodeText
  cases f.text? b row column with
  | some text => exact Act.finds_pure trivial
  | none => exact (Act.finds_log _ _).bind fun _ _ => Act.finds_pure trivial

namespace Echo

variable {σ : Type}

def Scene.Calm (scene : Scene σ) : Prop :=
  ∀ lookup ∈ scene.tree, ∀ b row column, (lookup b row column).Finds fun _ => True

/-- The fragments that show a hint: its label, for a type hint possibly after the value it is for, between
blanks. -/
def Shows (hint : Hint) (content : List Fragment) : Prop :=
  ∃ value : Option String, (hint.isType = false → value = none) ∧
    content = blank :: valueFragments value ++
      [⟨Label.trim hint.label, if hint.isType then .type else .identifier⟩, blank]

/-- Delimiters and contents in turn, delimiters at both ends. -/
def woven (delimiter : Nat → Fragment) : List (List Fragment) → List Fragment
  | [] => [delimiter 0]
  | content :: rest => delimiter 0 :: content ++ woven (fun i => delimiter (i + 1)) rest

/-- The delimiters of a line of `n` hints, one of which may be marked. -/
def delimiter (n : Nat) (mark : Option Nat) (i : Nat) : Fragment :=
  bar (if i = n then "]" else if i = 0 then "[" else "|") (mark = some i)

theorem finds_value {scene : Scene σ} (calm : scene.Calm) (line character : Int) :
    (Hint.value scene.tree scene.buffer line character).Finds fun value =>
      ∀ text ∈ value, ∃ whole, text = Label.shorten whole := by
  have unknown : (pure none : Act σ (Option String)).Finds fun value =>
      ∀ text ∈ value, ∃ whole, text = Label.shorten whole :=
    Act.finds_pure fun text member => (Option.not_mem_none text member).elim
  unfold Hint.value
  cases tree : scene.tree with
  | none => exact unknown
  | some lookup =>
    cases place : Hint.pointBefore? line character with
    | none => cases scene.buffer <;> exact unknown
    | some point =>
      have shown (b : Ident) : (do
          Act.emit (.lookup b point.1 point.2)
          return (← lookup b point.1 point.2).map Label.shorten : Act σ (Option String)).Finds fun value =>
            ∀ text ∈ value, ∃ whole, text = Label.shorten whole := by
        refine (Act.finds_lookup _ _ _).bind fun _ _ => (calm lookup tree _ _ _).bind fun found _ => Act.finds_pure ?_
        intro text member
        obtain ⟨whole, -, rfl⟩ := Option.map_eq_some_iff.1 (Option.mem_def.1 member)
        exact ⟨whole, rfl⟩
      cases scene.buffer with
      | absent => exact unknown
      | number n => exact shown (.number n)
      | name text => exact shown (.name text)

theorem finds_content {scene : Scene σ} (calm : scene.Calm) (line : Int) (hint : Hint) :
    (content scene line hint).Finds fun shown => Shows hint (blank :: shown ++ [blank]) := by
  unfold content
  cases kind : hint.isType with
  | false =>
    refine Act.finds_pure ⟨none, fun _ => rfl, ?_⟩
    simp [valueFragments, kind]
  | true =>
    refine (finds_value calm line hint.character).bind fun value _ => Act.finds_pure ⟨value, ?_, ?_⟩
    · intro plain
      simp [kind] at plain
    · simp [kind]

/-- The delimiters from a hint on, where the one before stood at `last`. -/
private def delimiterFrom (column last : Int) (opening : String) (hints : List Hint) (i : Nat) : Fragment :=
  bar (if i = hints.length then "]" else if i = 0 then opening else "|")
    (decide (last ≤ column ∧ i = hints.countP fun h => decide (h.character ≤ column)))

private theorem delimiterFrom_zero {column last : Int} {opening : String} {hint : Hint} {rest : List Hint}
    (sorted : ∀ h ∈ rest, hint.character ≤ h.character) :
    delimiterFrom column last opening (hint :: rest) 0 =
      bar opening (decide (last ≤ column ∧ column < hint.character)) := by
  have first : 0 = (hint :: rest).countP (fun h => decide (h.character ≤ column)) ↔
      column < hint.character := by
    rw [eq_comm, List.countP_eq_zero]
    constructor
    · intro none
      have own := none hint List.mem_cons_self
      simpa using own
    · intro before h member
      have bound : hint.character ≤ h.character := by
        rcases List.mem_cons.1 member with rfl | later
        · exact Int.le_refl _
        · exact sorted h later
      simp only [decide_eq_true_eq]
      omega
  simp [delimiterFrom, first]

private theorem delimiterFrom_succ {column last : Int} {opening : String} {hint : Hint} {rest : List Hint}
    (above : last ≤ hint.character) (sorted : ∀ h ∈ rest, hint.character ≤ h.character) (i : Nat) :
    delimiterFrom column last opening (hint :: rest) (i + 1) =
      delimiterFrom column hint.character "|" rest i := by
  have mark : (last ≤ column ∧ i + 1 = (hint :: rest).countP fun h => decide (h.character ≤ column)) ↔
      hint.character ≤ column ∧ i = rest.countP fun h => decide (h.character ≤ column) := by
    rw [List.countP_cons]
    by_cases passed : hint.character ≤ column
    · simp only [decide_eq_true passed, if_true]
      omega
    · have none : rest.countP (fun h => decide (h.character ≤ column)) = 0 := by
        rw [List.countP_eq_zero]
        intro h member
        have bound := sorted h member
        simp only [decide_eq_true_eq]
        omega
      simp [passed, none]
  simp [delimiterFrom, mark]

private theorem finds_fragmentsFrom {scene : Scene σ} (calm : scene.Calm) (line last : Int) (opening : String)
    {hints : List Hint} (sorted : hints.Pairwise fun g h => g.character ≤ h.character)
    (above : ∀ h ∈ hints, last ≤ h.character) :
    (fragmentsFrom scene line last opening hints).Finds fun fs =>
      ∃ contents, List.Forall₂ Shows hints contents ∧
        fs = woven (delimiterFrom scene.column last opening hints) contents := by
  -- The character of a hint is the lower end of the interval in which the next delimiter is marked.
  induction hints generalizing last opening with
  | nil => exact Act.finds_pure ⟨[], .nil, by simp [woven, delimiterFrom]⟩
  | cons hint rest ih =>
    obtain ⟨first, later⟩ := List.pairwise_cons.1 sorted
    unfold fragmentsFrom
    refine (finds_content calm line hint).bind fun shown shows => ?_
    refine (ih hint.character "|" later first).bind fun more found => ?_
    obtain ⟨contents, each, rfl⟩ := found
    refine Act.finds_pure ⟨(blank :: shown ++ [blank]) :: contents, .cons shows each, ?_⟩
    have tail : (fun i => delimiterFrom scene.column last opening (hint :: rest) (i + 1)) =
        delimiterFrom scene.column hint.character "|" rest := by
      funext i
      exact delimiterFrom_succ (above hint List.mem_cons_self) first i
    rw [woven, delimiterFrom_zero first, tail]
    simp

/-- Where the cursor is among hints: behind those at its column or before it, if it is in the line at all. -/
def mark (column : Int) (hints : List Hint) : Option Nat :=
  if 0 ≤ column then some (hints.countP fun h => decide (h.character ≤ column)) else none

theorem finds_fragments {scene : Scene σ} (calm : scene.Calm) (line : Int) {hints : List Hint}
    (sorted : hints.Pairwise fun g h => g.character ≤ h.character) (inLine : ∀ h ∈ hints, 0 ≤ h.character) :
    (fragments scene line hints).Finds fun fs =>
      ∃ contents, List.Forall₂ Shows hints contents ∧
        fs = woven (delimiter hints.length (mark scene.column hints)) contents := by
  have same : delimiterFrom scene.column 0 "[" hints = delimiter hints.length (mark scene.column hints) := by
    funext i
    by_cases inside : 0 ≤ scene.column
    · simp [delimiterFrom, delimiter, mark, inside, eq_comm]
    · simp [delimiterFrom, delimiter, mark, inside]
  rw [← same]
  exact finds_fragmentsFrom calm line 0 "[" sorted inLine

theorem finds_some_fragments {scene : Scene σ} (calm : scene.Calm) (line : Int) (hints : List Hint) :
    (fragments scene line hints).Finds fun _ => True := by
  have each (last : Int) (opening : String) : (fragmentsFrom scene line last opening hints).Finds fun _ => True := by
    induction hints generalizing last opening with
    | nil => exact Act.finds_pure trivial
    | cons hint rest ih =>
      unfold fragmentsFrom
      refine (finds_content calm line hint).bind fun shown _ => ?_
      exact (ih _ _).bind fun more _ => Act.finds_pure trivial
  exact each 0 "["

private theorem Shows.not_cursor {hint : Hint} {content : List Fragment} (shows : Shows hint content) :
    ∀ f ∈ content, f.highlight ≠ .cursor := by
  have normal : Highlight.normal ≠ .cursor := by decide
  have identifier : Highlight.identifier ≠ .cursor := by decide
  obtain ⟨value, -, rfl⟩ := shows
  intro f member
  simp only [List.cons_append, List.mem_cons, List.mem_append, List.not_mem_nil, or_false] at member
  rcases member with rfl | known | rfl | rfl
  · exact normal
  · cases value with
    | none => cases known
    | some text =>
      simp only [valueFragments, List.mem_cons, List.not_mem_nil, or_false] at known
      rcases known with rfl | rfl
      · exact identifier
      · show Highlight.delimiter ≠ .cursor
        decide
  · cases hint.isType with
    | false => exact identifier
    | true =>
      show Highlight.type ≠ .cursor
      decide
  · exact normal

theorem filter_cursor_woven {hints : List Hint} {contents : List (List Fragment)}
    (shows : List.Forall₂ Shows hints contents) (d : Nat → Fragment) :
    (woven d contents).filter (fun f => f.highlight = .cursor) =
      ((List.range (hints.length + 1)).map d).filter (fun f => f.highlight = .cursor) := by
  induction shows generalizing d with
  | nil => rfl
  | @cons hint content hints contents first _ ih =>
    have plain : content.filter (fun f => f.highlight = .cursor) = [] := by
      rw [List.filter_eq_nil_iff]
      intro f member
      simpa using first.not_cursor f member
    rw [woven, List.length_cons, List.range_succ_eq_map, List.map_cons, List.map_map, ← List.singleton_append,
      List.append_assoc, List.filter_append, List.filter_append, plain, List.nil_append, ih,
      ← List.filter_append, List.singleton_append]
    rfl

theorem filter_cursor_delimiter {n : Nat} {mark : Option Nat} (bound : ∀ k ∈ mark, k ≤ n) :
    ((List.range (n + 1)).map (delimiter n mark)).filter (fun f => f.highlight = .cursor) =
      mark.toList.map (delimiter n mark) := by
  have marked : ((fun f : Fragment => decide (f.highlight = .cursor)) ∘ delimiter n mark) =
      fun i => decide (mark = some i) := by
    funext i
    by_cases here : mark = some i
    · simp [delimiter, bar, here]
    · have plain : Highlight.normal ≠ Highlight.cursor := by decide
      simp [delimiter, bar, here, plain]
  rw [List.filter_map, marked]
  cases mark with
  | none => simp
  | some k =>
    have inside : k < n + 1 := Nat.lt_succ_of_le (bound k rfl)
    have once : (List.range (n + 1)).filter (fun i => decide (some k = some i)) = [k] := by
      simp only [Option.some.injEq, eq_comm (a := k)]
      rw [List.filter_eq, List.count_range, if_pos inside]
      rfl
    rw [once]
    rfl

end Echo

end HintLine
