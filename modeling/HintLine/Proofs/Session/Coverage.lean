import HintLine.Proofs.Hint.Value
import HintLine.Proofs.Session.Calls
import Mathlib.Data.Prod.Lex
import Mathlib.Order.Interval.Set.Defs

/-!
What a request for hints covers. Servers end lines at fewer characters than the editor does, so they count fewer of
them; but behind the last end of a line they have one line more, which may be empty. The range that is asked for ends
where that line begins if it is empty, and behind it otherwise.
-/

set_option autoImplicit false

namespace HintLine

namespace Text.Lines

/-- The lines of a text as servers count them. They end at a line feed, a carriage return, or the one with the other;
behind the last end is one more line. -/
def document : List Char → List (List Char)
  | [] => [[]]
  | '\r' :: '\n' :: rest => [] :: document rest
  | c :: rest => if c = '\n' ∨ c = '\r' then [] :: document rest else (document rest).modifyHead (c :: ·)

/-- A place of a text, for servers: a line, and in it as many units of UTF-16 as there are or fewer. -/
def HasPlace (s : List Char) (line character : Nat) : Prop :=
  ∃ l, (document s)[line]? = some l ∧ character ≤ Utf16.length l

private theorem count_cons_of_isBreak {c : Char} {rest : List Char} (ends : isBreak c = true)
    (apart : ∀ more, c = '\r' → rest = '\n' :: more → False) : count (c :: rest) = count rest + 1 := by
  unfold count
  rw [split.eq_3 c rest apart, if_pos ends, List.length_cons]

private theorem count_le_count_cons {c : Char} {rest : List Char} (other : c ≠ '\r') :
    count rest ≤ count (c :: rest) := by
  by_cases ends : isBreak c = true
  · rw [count_cons_of_isBreak ends fun _ same => (other same).elim]
    exact Nat.le_succ _
  · unfold count
    rw [split.eq_3 c rest fun _ same => (other same).elim, if_neg ends]
    cases split rest with
    | nil => exact Nat.zero_le _
    | cons line lines => exact Nat.le_refl _

private theorem count_pos {s : List Char} (some : s ≠ []) : 0 < count s := List.length_pos_iff.2 (split_ne_nil some)

private theorem lt_succ_of_cons {lines : List (List Char)} {count n : Nat} {l : List Char}
    (each : ∀ {n l}, lines[n]? = some l → n < count ∨ n = count ∧ l = []) (found : ([] :: lines)[n]? = some l) :
    n < count + 1 ∨ n = count + 1 ∧ l = [] := by
  cases n with
  | zero => exact Or.inl (Nat.succ_pos _)
  | succ n => exact (each found).imp Nat.succ_lt_succ fun behind => ⟨congrArg Nat.succ behind.1, behind.2⟩

private theorem lt_count_of_document {s : List Char} {n : Nat} {l : List Char} (found : (document s)[n]? = some l) :
    n < count s ∨ n = count s ∧ l = [] := by
  fun_induction document s generalizing n l with
  | case1 =>
    cases n with
    | zero => exact Or.inr ⟨rfl, (Option.some.inj found).symm⟩
    | succ n => cases found
  | case2 rest ih => exact lt_succ_of_cons ih found
  | case3 c rest apart ends ih =>
    have isBreak : isBreak c = true := by rcases ends with rfl | rfl <;> decide
    rw [count_cons_of_isBreak isBreak apart]
    exact lt_succ_of_cons ih found
  | case4 c rest apart other ih =>
    -- The character may end a line here though it ends none for servers; lines are not lost by it.
    have grows : count rest ≤ count (c :: rest) := count_le_count_cons fun same => other (Or.inr same)
    cases n with
    | zero => exact Or.inl (count_pos (List.cons_ne_nil c rest))
    | succ n =>
      have later : (document rest)[n + 1]? = some l := by
        rwa [List.getElem?_modifyHead_succ] at found
      rcases ih later with below | ⟨behind, empty⟩
      · exact Or.inl (Nat.lt_of_lt_of_le below grows)
      · rcases Nat.lt_or_eq_of_le grows with more | same
        · exact Or.inl (behind ▸ more)
        · exact Or.inr ⟨behind.trans same, empty⟩

private theorem mem_Icc_of_hasPlace {s : List Char} {line character : Nat} (place : HasPlace s line character) :
    toLex (line, character) ∈ Set.Icc (toLex (0, 0)) (toLex (count s, 0)) := by
  obtain ⟨l, found, within⟩ := place
  refine ⟨?_, ?_⟩
  · rw [Prod.Lex.toLex_le_toLex]
    rcases Nat.eq_zero_or_pos line with rfl | pos
    · exact Or.inr ⟨rfl, Nat.zero_le _⟩
    · exact Or.inl pos
  · rw [Prod.Lex.toLex_le_toLex]
    rcases lt_count_of_document found with below | ⟨behind, rfl⟩
    · exact Or.inl below
    · exact Or.inr ⟨behind, within⟩

end Text.Lines

namespace Session

open HintLine.Client (Job)

/-- A request for hints covers the whole document. A client that is there is asked for all from the start to the line
behind the last line of the buffer, and no place that its server knows in the text is outside of that. -/
theorem request_covers {s : Session} {buffer client : Ident} (able : s.canSend buffer client = true) :
    ∃ b, s.editor.buffer? buffer = some b ∧
      (perform (.send buffer client) s).trace = [.call (.inlayHint client b.uri b.lineCount)] ∧
      ∀ line character, Text.Lines.HasPlace b.text.toList line character →
        toLex (line, character) ∈ Set.Icc (toLex (0, 0)) (toLex (b.lineCount, 0)) := by
  obtain ⟨b, isOpen, sent⟩ := performTo_sent (dispatch hintMethod) able
  refine ⟨b, isOpen, ?_, fun line character => Text.Lines.mem_Icc_of_hasPlace⟩
  unfold perform
  rw [sent]

/-- A session with a file open that servers see three lines in; here the last of them is two, for its form feed. -/
private def mingled : Session :=
  (register (.number 1) ⟨true, .ok (), .ok ()⟩
    (openBuffer ⟨.here, ["a.toy"]⟩ "a\r\n\rb\x0c😀" "toy"
      (.new .standard ⟨[], [], []⟩ (.new [] none) false)).state).state

theorem request_covers_mingled :
    mingled.canSend (.number 1) (.number 1) = true ∧
      ∃ b, mingled.editor.buffer? (.number 1) = some b ∧ b.lineCount = 4 ∧
        Text.Lines.HasPlace b.text.toList 2 4 ∧
        toLex (2, 4) ∈ Set.Icc (toLex (0, 0)) (toLex (b.lineCount, 0)) := by
  have able : mingled.canSend (.number 1) (.number 1) = true := by decide
  obtain ⟨b, isOpen, -, covers⟩ := request_covers able
  obtain rfl := Option.some.inj isOpen
  have place : Text.Lines.HasPlace "a\r\n\rb\x0c😀".toList 2 4 := by
    refine ⟨"b\x0c😀".toList, ?_, ?_⟩ <;> decide
  refine ⟨able, _, rfl, ?_, place, covers 2 4 place⟩
  decide

end Session

end HintLine
