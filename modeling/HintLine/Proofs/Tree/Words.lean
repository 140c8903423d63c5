import HintLine.Proofs.Text.Utf8
import HintLine.Tree.Brackets
import Mathlib.Data.List.Induction

/-!
Words and the nodes that stand for them. A word is a longest run of letters, digits and underscores of ASCII. A tree
knows the words of a text if at each byte of a word the node is the word; trees of words and brackets do.
-/

set_option autoImplicit false

namespace HintLine

namespace Text

/-- The lines of a text, without the line feeds that end them. -/
def rowsOf (s : List Char) : List (List Char) := s.splitOn '\n'

def isWordChar (c : Char) : Bool := c.isAlphanum || c = '_'

/-- A word, with what stands before it and behind it in its line. -/
structure IsWord (before word after : List Char) : Prop where
  nonempty : word ≠ []
  all : ∀ c ∈ word, isWordChar c = true
  left : ∀ c ∈ before.getLast?, isWordChar c = false
  right : ∀ c ∈ after.head?, isWordChar c = false

private theorem isWord_iff {before word after : List Char} :
    IsWord before word after ↔
      word ≠ [] ∧ word.all isWordChar = true ∧ before.getLast?.any isWordChar = false ∧
        after.head?.any isWordChar = false := by
  rw [List.all_eq_true, Option.any_eq_false, Option.any_eq_false]
  constructor
  · rintro ⟨nonempty, all, left, right⟩
    exact ⟨nonempty, all, left, right⟩
  · rintro ⟨nonempty, all, left, right⟩
    exact ⟨nonempty, all, left, right⟩

instance (before word after : List Char) : Decidable (IsWord before word after) := decidable_of_iff _ isWord_iff.symm

private theorem ascii_of_isWordChar {c : Char} (isWord : isWordChar c = true) : c.toNat < 0x80 := by
  rw [isWordChar, Bool.or_eq_true, decide_eq_true_eq] at isWord
  rcases isWord with letter | rfl
  · delta Char.isAlphanum Char.isAlpha Char.isUpper Char.isLower Char.isDigit at letter
    simp only [Bool.or_eq_true, Bool.and_eq_true, decide_eq_true_eq, UInt32.le_iff_toNat_le, ge_iff_le] at letter
    have value : c.toNat = c.val.toNat := rfl
    have lastUpper : 'Z'.val.toNat = 90 := rfl
    have lastLower : 'z'.val.toNat = 122 := rfl
    have lastDigit : '9'.val.toNat = 57 := rfl
    omega
  · decide

theorem IsWord.ascii {before word after : List Char} (isWord : IsWord before word after) :
    ∀ c ∈ word, c.toNat < 0x80 := fun c member => ascii_of_isWordChar (isWord.all c member)

end Text

/-- A tree of a text that has each word as the node at each of its bytes. -/
def Tree.KnowsWords (t : Tree) (text : List Char) : Prop :=
  ∀ (row : Nat) (before word after : List Char), (Text.rowsOf text)[row]? = some (before ++ word ++ after) →
    Text.IsWord before word after → ∀ i < word.length,
      t.node? row ((Text.Utf8.encode before).length + i : Nat) = some ⟨some (Text.Utf8.encode word)⟩

namespace Tree.Brackets

open HintLine.Text (IsWord isWordChar rowsOf)
open HintLine.Text.Utf8 (encode)

private theorem isWord_ofNat {c : Char} (ascii : c.toNat < 0x80) :
    isWord (UInt8.ofNat c.toNat) = isWordChar c := by
  have each : ∀ n < 0x80, isWord (UInt8.ofNat n) = isWordChar (Char.ofNat n) := by decide +kernel
  have own := each c.toNat ascii
  rwa [Char.ofNat_toNat] at own

theorem low_of_isWord {b : UInt8} (isWord : isWord b = true) : b.toNat < 0x80 := by
  simp only [Brackets.isWord, Bool.or_eq_true, Bool.and_eq_true, decide_eq_true_eq, UInt8.le_iff_toNat_le] at isWord
  have lastDigit : (0x39 : UInt8).toNat = 57 := rfl
  have lastUpper : (0x5A : UInt8).toNat = 90 := rfl
  have lastLower : (0x7A : UInt8).toNat = 122 := rfl
  rcases isWord with ((digit | upper) | lower) | rfl
  · omega
  · omega
  · omega
  · decide

private theorem isWord_of_mem {c : Char} {b : UInt8} (member : b ∈ String.utf8EncodeChar c)
    (found : isWord b = true) : isWordChar c = true := by
  have low := low_of_isWord found
  have same := Text.Utf8.toNat_of_mem member low
  rwa [← isWord_ofNat (same ▸ low), same, UInt8.ofNat_toNat]

private theorem isWord_of_mem_encode {s : List Char} (all : ∀ c ∈ s, isWordChar c = true) :
    ∀ b ∈ encode s, isWord b = true := by
  intro b member
  rw [Text.Utf8.encode_of_ascii fun c inside => Text.ascii_of_isWordChar (all c inside)] at member
  obtain ⟨c, inside, rfl⟩ := List.mem_map.1 member
  rw [isWord_ofNat (Text.ascii_of_isWordChar (all c inside))]
  exact all c inside

private theorem takeWhile_isWord_encode {s : List Char} (front : ∀ c ∈ s.head?, isWordChar c = false) :
    (encode s).takeWhile isWord = [] := by
  cases s with
  | nil => rfl
  | cons c s =>
    rw [Text.Utf8.encode_cons]
    cases bytes : String.utf8EncodeChar c with
    | nil => exact (String.utf8EncodeChar_ne_nil bytes).elim
    | cons b bs =>
      have none : ¬ isWord b = true := by
        intro found
        have inside : b ∈ String.utf8EncodeChar c := by rw [bytes]; exact List.mem_cons_self
        have word := isWord_of_mem inside found
        rw [front c rfl] at word
        cases word
      rw [List.cons_append, List.takeWhile_cons_of_neg none]

private theorem takeWhile_isWord_reverse {s : List Char} (back : ∀ c ∈ s.getLast?, isWordChar c = false) :
    (encode s).reverse.takeWhile isWord = [] := by
  cases s using List.reverseRecOn with
  | nil => rfl
  | append_singleton s c =>
    have last : encode (s ++ [c]) = encode s ++ String.utf8EncodeChar c := by simp
    rw [last, List.reverse_append]
    cases bytes : (String.utf8EncodeChar c).reverse with
    | nil => exact (String.utf8EncodeChar_ne_nil (List.reverse_eq_nil_iff.1 bytes)).elim
    | cons b bs =>
      have none : ¬ isWord b = true := by
        intro found
        have inside : b ∈ String.utf8EncodeChar c := by
          rw [← List.mem_reverse, bytes]
          exact List.mem_cons_self
        have word := isWord_of_mem inside found
        rw [back c (by simp)] at word
        cases word
      rw [List.cons_append, List.takeWhile_cons_of_neg none]

private theorem length_encode {s : List Char} (ascii : ∀ c ∈ s, c.toNat < 0x80) : (encode s).length = s.length := by
  rw [Text.Utf8.encode_of_ascii ascii, List.length_map]

private theorem wordAt_encode {before word after : List Char} (isWord : IsWord before word after) {i : Nat}
    (inside : i < word.length) :
    wordAt (encode (before ++ word ++ after)) ((encode before).length + i) = encode word := by
  have bytes := isWord_of_mem_encode isWord.all
  have bound : i ≤ (encode word).length := by
    rw [length_encode isWord.ascii]
    exact Nat.le_of_lt inside
  have split : encode (before ++ word ++ after) = encode before ++ (encode word ++ encode after) := by simp
  have front : (encode (before ++ word ++ after)).take ((encode before).length + i) =
      encode before ++ (encode word).take i := by
    rw [split, List.take_length_add_append, List.take_append_of_le_length bound]
  have back : (encode (before ++ word ++ after)).drop ((encode before).length + i) =
      (encode word).drop i ++ encode after := by
    rw [split, List.drop_length_add_append, List.drop_append_of_le_length bound]
  have left : ∀ b ∈ ((encode word).take i).reverse, Brackets.isWord b = true := by
    intro b member
    exact bytes b (List.mem_of_mem_take (List.mem_reverse.1 member))
  have right : ∀ b ∈ (encode word).drop i, Brackets.isWord b = true := by
    intro b member
    exact bytes b (List.mem_of_mem_drop member)
  unfold wordAt
  rw [front, back, List.reverse_append, List.takeWhile_append_of_pos left, List.takeWhile_append_of_pos right,
    takeWhile_isWord_reverse isWord.left, takeWhile_isWord_encode isWord.right, List.append_nil, List.append_nil,
    List.reverse_reverse, List.take_append_drop]

private theorem rows_ne_nil (bs : List UInt8) : rows bs ≠ [] := by
  cases bs with
  | nil => simp [rows]
  | cons b rest =>
    rw [rows]
    split
    · simp
    · split <;> simp

private theorem rows_cons {b : UInt8} (other : b ≠ lineFeed) (rest : List UInt8) :
    rows (b :: rest) = (rows rest).modifyHead (b :: ·) := by
  rw [rows, if_neg other]
  cases found : rows rest with
  | nil => exact (rows_ne_nil rest found).elim
  | cons r rs => rfl

private theorem rows_append {bs : List UInt8} (none : lineFeed ∉ bs) (rest : List UInt8) :
    rows (bs ++ rest) = (rows rest).modifyHead (bs ++ ·) := by
  induction bs with
  | nil => exact (congrFun List.modifyHead_id (rows rest)).symm
  | cons b bs ih =>
    have other : b ≠ lineFeed := fun same => none (same ▸ List.mem_cons_self)
    have more := ih fun later => none (List.mem_cons_of_mem b later)
    rw [List.cons_append, rows_cons other, more, List.modifyHead_modifyHead]
    rfl

theorem rows_encode (s : List Char) : rows (encode s) = (rowsOf s).map encode := by
  induction s with
  | nil => rfl
  | cons c s ih =>
    unfold rowsOf List.splitOn at ih ⊢
    rw [List.splitOnP_cons_eq_if_modifyHead, Text.Utf8.encode_cons]
    by_cases feed : c = '\n'
    · subst feed
      have bytes : String.utf8EncodeChar '\n' = [lineFeed] := by decide
      rw [bytes, List.singleton_append, rows, if_pos rfl, ih, if_pos (by simp)]
      rfl
    · have none : lineFeed ∉ String.utf8EncodeChar c := by
        intro member
        have same : c.toNat = '\n'.toNat := Text.Utf8.toNat_of_mem member (by decide)
        exact feed (Char.toNat_inj.1 same)
      rw [rows_append none, ih, if_neg (by simpa using feed)]
      cases List.splitOnP (fun x => x == '\n') s with
      | nil => rfl
      | cons l ls => simp

private theorem nodeAtByte_of_isWord {source row : List UInt8} {start column : Nat} {b : UInt8}
    (found : isWord b = true) : nodeAtByte source row start column b = ⟨some (wordAt row column)⟩ := by
  have low := low_of_isWord found
  have noBracket : closer? b = none := by
    unfold closer?
    split_ifs with round square curly
    · rw [round] at found
      cases found
    · rw [square] at found
      cases found
    · rw [curly] at found
      cases found
    · rfl
  have single : ¬ 0x80 ≤ b := by
    rw [UInt8.le_iff_toNat_le]
    exact Nat.not_le_of_lt low
  unfold nodeAtByte
  rw [noBracket]
  dsimp only
  rw [if_neg single, if_pos found]

private theorem node?_encode {text : List Char} {row : Nat} {before word after : List Char}
    (line : (rowsOf text)[row]? = some (before ++ word ++ after)) (isWord : IsWord before word after) {i : Nat}
    (inside : i < word.length) :
    node? (encode text) row ((encode before).length + i) = some ⟨some (encode word)⟩ := by
  have found : (rows (encode text))[row]? = some (encode (before ++ word ++ after)) := by
    rw [rows_encode, List.getElem?_map, line]
    rfl
  have bound : i < (encode word).length := by
    rw [length_encode isWord.ascii]
    exact inside
  have byte : (encode (before ++ word ++ after))[(encode before).length + i]? = some (encode word)[i] := by
    have split : encode (before ++ word ++ after) = encode before ++ (encode word ++ encode after) := by simp
    rw [split, List.getElem?_append_right (Nat.le_add_right _ _), Nat.add_sub_cancel_left,
      List.getElem?_append_left bound, List.getElem?_eq_getElem bound]
  have wordByte := isWord_of_mem_encode isWord.all _ (List.getElem_mem bound)
  unfold node?
  dsimp only
  rw [found]
  dsimp only
  rw [byte]
  dsimp only
  rw [nodeAtByte_of_isWord wordByte, wordAt_encode isWord inside]

theorem knowsWords (text : String) : (tree text).KnowsWords text.toList := by
  intro row before word after line isWord i inside
  have row₀ : (0 : Int) ≤ row := Int.natCast_nonneg row
  have column₀ : (0 : Int) ≤ ((encode before).length + i : Nat) := Int.natCast_nonneg _
  unfold tree
  dsimp only
  rw [if_pos ⟨row₀, column₀⟩, Int.toNat_natCast, Int.toNat_natCast]
  exact node?_encode line isWord inside

end Tree.Brackets

end HintLine
