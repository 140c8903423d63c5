import HintLine.Hint.Value
import HintLine.Proofs.Tree.Words

/-!
The value that is shown with a hint behind a word. Servers count the characters of a line in units of UTF-16, trees in
bytes of UTF-8. The two agree on ASCII; beyond it bytes outnumber units, and the place looked up lies as far before
the one meant. The word is found all the same as long as it is longer than that.
-/

set_option autoImplicit false

namespace HintLine

open HintLine.Text (IsWord rowsOf)
open HintLine.Text.Utf8 (encode)

/-- The number of units of UTF-16 that a text takes. -/
def Text.Utf16.length : List Char → Nat
  | [] => 0
  | c :: s => (if c.toNat < 0x10000 then 1 else 2) + length s

namespace Text.Utf16

private theorem length_append (s t : List Char) : length (s ++ t) = length s + length t := by
  induction s with
  | nil => exact (Nat.zero_add _).symm
  | cons c s ih => rw [List.cons_append, length, ih, length, Nat.add_assoc]

private theorem length_of_ascii {s : List Char} (ascii : ∀ c ∈ s, c.toNat < 0x80) : length s = s.length := by
  induction s with
  | nil => rfl
  | cons c s ih =>
    have one : c.toNat < 0x10000 := by
      have low := ascii c List.mem_cons_self
      omega
    rw [length, if_pos one, ih fun d member => ascii d (List.mem_cons_of_mem c member), List.length_cons, Nat.add_comm]

private theorem length_le_length_encode (s : List Char) : length s ≤ (encode s).length := by
  induction s with
  | nil => exact Nat.le_refl 0
  | cons c s ih =>
    have first : (if c.toNat < 0x10000 then 1 else 2) ≤ (String.utf8EncodeChar c).length := by
      have value : c.toNat = c.val.toNat := rfl
      unfold String.utf8EncodeChar
      dsimp only
      split_ifs <;> simp only [List.length_cons, List.length_nil] <;> omega
    rw [length, Text.Utf8.encode_cons, List.length_append]
    exact Nat.add_le_add first ih

end Text.Utf16

theorem Forest.outcome_nodeText {σ : Type} (forest : Forest) (buffer : Ident) (row column : Int) (s : σ) :
    (forest.nodeText buffer row column s).outcome = .ok (forest.text? buffer row column) := by
  unfold Forest.nodeText
  cases forest.text? buffer row column with
  | some text => rfl
  | none => rfl

private theorem Forest.text?_insert (forest : Forest) (buffer : Ident) (tree : Tree) (row column : Int) :
    Forest.text? (forest.insert buffer tree) buffer row column =
      ((tree.node? row column).bind Node.bytes).map fun b => String.ofList (Text.Utf8.decodeLossy b) := by
  unfold Forest.text? Forest.bytes?
  rw [Table.get?_insert_self]
  rfl

namespace Hint

private theorem pointBefore?_succ (row column : Nat) :
    pointBefore? (row + 1 : Nat) (column + 1 : Nat) = some ((row : Int), (column : Int)) := by
  unfold pointBefore?
  rw [if_neg (by omega)]
  simp

private theorem outcome_value {σ : Type} (forest : Forest) {buffer : Ident} (named : buffer ≠ .absent)
    (row column : Nat) (s : σ) :
    (value (some forest.nodeText) buffer (row + 1 : Nat) (column + 1 : Nat) s).outcome =
      .ok ((forest.text? buffer row column).map Label.shorten) := by
  have looked := forest.outcome_nodeText buffer row column s
  have point := pointBefore?_succ row column
  unfold value
  rw [point]
  cases buffer with
  | absent => exact (named rfl).elim
  | number | name =>
    dsimp only
    rw [Act.bind_apply_ok (Act.emit_apply _ _)]
    rcases found : forest.nodeText _ (row : Int) (column : Int) s with ⟨e | text, after, trace⟩
    · rw [found] at looked
      cases looked
    · rw [found] at looked
      obtain rfl := Except.ok.inj looked
      rw [Act.bind_apply_ok found]
      rfl

variable {tree : Tree} {text : String} {row : Nat} {before word after : List Char}

/-- Of a hint behind a word the word is shown, shortened, if the bytes before the word outnumber the units before it
by less than the word is long. Otherwise the place looked up lies before the word, and what is shown belongs there. -/
theorem value_behind_word {σ : Type} (knows : tree.KnowsWords text.toList) (forest : Forest) {buffer : Ident}
    (named : buffer ≠ .absent) (line : (rowsOf text.toList)[row]? = some (before ++ word ++ after))
    (isWord : IsWord before word after) (s : σ) :
    let grown : Forest := forest.insert buffer tree
    let character := Text.Utf16.length (before ++ word)
    let shown := (value (some grown.nodeText) buffer (row + 1 : Nat) character s).outcome
    ((encode before).length < Text.Utf16.length before + word.length →
      shown = .ok (some (Label.shorten (String.ofList word)))) ∧
    (Text.Utf16.length before + word.length ≤ (encode before).length →
      ∃ column < (encode before).length, character = column + 1 ∧
        shown = .ok ((grown.text? buffer row column).map Label.shorten)) := by
  intro grown character shown
  have units : character = Text.Utf16.length before + word.length := by
    show Text.Utf16.length (before ++ word) = _
    rw [Text.Utf16.length_append, Text.Utf16.length_of_ascii isWord.ascii]
  have long : 0 < word.length := List.length_pos_iff.2 isWord.nonempty
  obtain ⟨column, place⟩ : ∃ column, character = column + 1 := ⟨character - 1, by omega⟩
  have found : shown = .ok ((grown.text? buffer row column).map Label.shorten) := by
    show (value _ buffer _ (character : Int) s).outcome = _
    rw [place]
    exact outcome_value grown named row column s
  constructor
  · intro near
    have fewer := Text.Utf16.length_le_length_encode before
    obtain ⟨i, same⟩ : ∃ i, column = (encode before).length + i := ⟨column - (encode before).length, by omega⟩
    have node := knows row before word after line isWord i (by omega)
    have read : grown.text? buffer row column = some (String.ofList word) := by
      show Forest.text? (forest.insert buffer tree) buffer row column = _
      rw [Forest.text?_insert, same, node]
      show some (String.ofList (Text.Utf8.decodeLossy (encode word))) = _
      rw [Text.Utf8.decodeLossy_encode]
    rw [found, read]
    rfl
  · intro far
    exact ⟨column, by omega, place, found⟩

/-- The forest of a single text. -/
private def planted (text : String) : Forest := Table.empty.insert (.number 1) (Tree.Brackets.tree text)

theorem value_behind_word_longer :
    (rowsOf "é = bcd".toList)[0]? = some ("é = ".toList ++ "bcd".toList ++ []) ∧
      IsWord "é = ".toList "bcd".toList [] ∧
      (value (some (planted "é = bcd").nodeText) (.number 1) 1 7 ()).outcome = .ok (some (Label.shorten "bcd")) := by
  have line : (rowsOf "é = bcd".toList)[0]? = some ("é = ".toList ++ "bcd".toList ++ []) := by decide
  have isWord : IsWord "é = ".toList "bcd".toList [] := by decide
  obtain ⟨near, -⟩ := value_behind_word (Tree.Brackets.knowsWords "é = bcd") Table.empty
    (show Ident.number 1 ≠ .absent by decide) line isWord ()
  exact ⟨line, isWord, near (by decide)⟩

/-- Behind a word of one letter, after a letter of two bytes, the row is shown instead. -/
theorem value_of_row :
    (Tree.Brackets.tree "é = b").KnowsWords "é = b".toList ∧
      (rowsOf "é = b".toList)[0]? = some ("é = ".toList ++ "b".toList ++ []) ∧
      IsWord "é = ".toList "b".toList [] ∧ Text.Utf16.length ("é = ".toList ++ "b".toList) = 5 ∧
      (value (some (planted "é = b").nodeText) (.number 1) 1 5 ()).outcome = .ok (some "é = b") ∧
      Label.shorten "b" ≠ "é = b" := by
  refine ⟨Tree.Brackets.knowsWords _, by decide, by decide, by decide, ?_, by decide⟩
  decide +kernel

end Hint

end HintLine
