import HintLine.Proofs.Hint.Value
import HintLine.Session.Basic
import Mathlib.Data.List.Induction
import Mathlib.Data.List.TakeWhile

/-!
What is read from the trees of buffers. A node is a run of bytes of the text it was parsed from, so it could cut a
character in two. Nodes of words and brackets do not: rows and the whole text are text, words and bracketed parts begin
and end with ASCII. Only a byte beyond ASCII is a node by itself, and reads as one replacement character. Which text a
tree is of, the history of its buffer tells.
-/

set_option autoImplicit false

namespace HintLine

open HintLine.Text (rowsOf)
open HintLine.Text.Utf8 (encode)

/-- What a node reads as. -/
def Node.text? (n : Node) : Option String := n.bytes.map fun bytes => String.ofList (Text.Utf8.decodeLossy bytes)

namespace Text

/-- What stands above a row, with the line feeds. -/
def above (s : List Char) (row : Nat) : List Char := ((rowsOf s).take row).flatMap (· ++ ['\n'])

/-- The bytes of a text before a point. -/
def offset (s : List Char) (row column : Nat) : Nat := (encode (above s row)).length + column

/-- The byte at a point. Behind the end of a row there is none. -/
def byteAt? (s : List Char) (row column : Nat) : Option UInt8 :=
  (rowsOf s)[row]?.bind fun line => (encode line)[column]?

/-- A part of a text, there where it reaches over the byte at an offset. -/
def IsAround (part s : List Char) (offset : Nat) : Prop :=
  ∃ front back, s = front ++ part ++ back ∧ (encode front).length ≤ offset ∧
    offset < (encode front).length + (encode part).length

private theorem exists_intercalate {lines : List (List Char)} {row : Nat} {line : List Char}
    (found : lines[row]? = some line) :
    ∃ below, ['\n'].intercalate lines = (lines.take row).flatMap (· ++ ['\n']) ++ line ++ below := by
  induction lines generalizing row with
  | nil => cases found
  | cons l lines ih =>
    cases lines with
    | nil =>
      cases row with
      | zero =>
        obtain rfl := Option.some.inj found
        exact ⟨[], by simp⟩
      | succ row => cases found
    | cons l' lines =>
      rw [List.intercalate_cons_cons]
      cases row with
      | zero =>
        obtain rfl := Option.some.inj found
        exact ⟨['\n'] ++ ['\n'].intercalate (l' :: lines), by simp⟩
      | succ row =>
        obtain ⟨below, rest⟩ := ih (show (l' :: lines)[row]? = some line from found)
        refine ⟨below, ?_⟩
        rw [rest]
        simp

private theorem exists_below {s : List Char} {row : Nat} {line : List Char} (found : (rowsOf s)[row]? = some line) :
    ∃ below, s = above s row ++ line ++ below := by
  obtain ⟨below, whole⟩ := exists_intercalate found
  have same : ['\n'].intercalate (rowsOf s) = s := List.intercalate_splitOn '\n'
  exact ⟨below, same.symm.trans whole⟩

end Text

namespace Tree.Brackets

open HintLine.Text (above byteAt? offset IsAround)

/-- What may be read at a point of a text: nothing below its rows or at a bracket that nothing closes, a replacement
character at a byte beyond ASCII, a part around the point at any other byte, and all of it behind the end of a row. -/
inductive Excerpt (s : List Char) (row column : Nat) : Option String → Prop
  | beyond (below : (rowsOf s).length ≤ row) : Excerpt s row column none
  | unclosed {b : UInt8} (here : byteAt? s row column = some b) (opens : (closer? b).isSome = true) :
    Excerpt s row column none
  | scrap {b : UInt8} (here : byteAt? s row column = some b) (high : 0x80 ≤ b.toNat) :
    Excerpt s row column (some "\uFFFD")
  | part {b : UInt8} {text : List Char} (here : byteAt? s row column = some b) (low : b.toNat < 0x80)
    (around : IsAround text s (offset s row column)) : Excerpt s row column (some (String.ofList text))
  | whole (inside : row < (rowsOf s).length) (behind : byteAt? s row column = none) :
    Excerpt s row column (some (String.ofList s))

private theorem low_of_closer? {b c : UInt8} (closes : closer? b = some c) : b.toNat < 0x80 ∧ c.toNat < 0x80 := by
  unfold closer? at closes
  split_ifs at closes with round square curly
  · obtain rfl := Option.some.inj closes
    subst round
    decide
  · obtain rfl := Option.some.inj closes
    subst square
    decide
  · obtain rfl := Option.some.inj closes
    subst curly
    decide

private theorem upToCloser_spec {opener closer : UInt8} {depth : Nat} {bs found : List UInt8}
    (closed : upToCloser opener closer depth bs = some found) : found <+: bs ∧ found.getLast? = some closer := by
  induction bs generalizing depth found with
  | nil => cases closed
  | cons b rest ih =>
    have onward {d : Nat} (more : (upToCloser opener closer d rest).map (b :: ·) = some found) :
        found <+: b :: rest ∧ found.getLast? = some closer := by
      obtain ⟨inner, deeper, rfl⟩ := Option.map_eq_some_iff.1 more
      obtain ⟨begins, ends⟩ := ih deeper
      exact ⟨List.cons_prefix_cons.2 ⟨rfl, begins⟩, by rw [List.getLast?_cons, ends, Option.getD_some]⟩
    rw [upToCloser] at closed
    split_ifs at closed with ends shallow opens
    · obtain rfl := Option.some.inj closed
      exact ⟨List.cons_prefix_cons.2 ⟨rfl, List.nil_prefix⟩, congrArg some ends⟩
    · exact onward closed
    · exact onward closed
    · exact onward closed

private theorem rowStart_encode (s : List Char) (row : Nat) :
    rowStart (rows (encode s)) row = (encode (above s row)).length := by
  have shifted : ∀ (lines : List (List Char)) (n : Nat),
      (lines.map encode).foldl (fun n r => n + r.length + 1) n =
        n + (encode (lines.flatMap (· ++ ['\n']))).length := by
    intro lines
    induction lines with
    | nil => exact fun n => rfl
    | cons line lines ih =>
      intro n
      have feed : (encode ['\n']).length = 1 := by decide
      rw [List.map_cons, List.foldl_cons, ih, List.flatMap_cons, Text.Utf8.encode_append, Text.Utf8.encode_append,
        List.length_append, List.length_append, feed]
      omega
  unfold rowStart above
  rw [rows_encode, ← List.map_take, shifted, Nat.zero_add]

private theorem exists_isAround {s : List Char} {before part after : List UInt8} {place : Nat}
    (cut : encode s = before ++ part ++ after) (left : before.length ≤ place)
    (right : place < before.length + part.length) (first : ∀ b ∈ part.head?, b.toNat < 0x80)
    (last : ∀ b ∈ part.getLast?, b.toNat < 0x80) : ∃ text, encode text = part ∧ IsAround text s place := by
  have some : part ≠ [] := by
    rintro rfl
    exact Nat.not_lt_of_le left right
  obtain ⟨front, text, back, whole, rfl, rfl⟩ := Text.Utf8.exists_part_of_encode cut some first last
  exact ⟨text, rfl, front, back, whole, left, right⟩

private theorem exists_wordAt {left right : List UInt8} {b : UInt8} (found : isWord b = true) :
    ∃ before after, left ++ b :: right = before ++ wordAt (left ++ b :: right) left.length ++ after ∧
      before.length ≤ left.length ∧
      left.length < before.length + (wordAt (left ++ b :: right) left.length).length := by
  have word : wordAt (left ++ b :: right) left.length =
      (left.reverse.takeWhile isWord).reverse ++ b :: right.takeWhile isWord := by
    unfold wordAt
    rw [List.take_left, List.drop_left, List.takeWhile_cons_of_pos found]
  have ahead : (left.reverse.dropWhile isWord).reverse ++ (left.reverse.takeWhile isWord).reverse = left := by
    rw [← List.reverse_append, List.takeWhile_append_dropWhile, List.reverse_reverse]
  have lengths := congrArg List.length ahead
  rw [List.length_append] at lengths
  refine ⟨(left.reverse.dropWhile isWord).reverse, right.dropWhile isWord, ?_, by omega, ?_⟩
  · calc left ++ b :: right
        = (left.reverse.dropWhile isWord).reverse ++ (left.reverse.takeWhile isWord).reverse ++
            b :: (right.takeWhile isWord ++ right.dropWhile isWord) := by
          rw [ahead, List.takeWhile_append_dropWhile]
      _ = (left.reverse.dropWhile isWord).reverse ++
            ((left.reverse.takeWhile isWord).reverse ++ b :: right.takeWhile isWord) ++
            right.dropWhile isWord := by
          simp
      _ = (left.reverse.dropWhile isWord).reverse ++ wordAt (left ++ b :: right) left.length ++
            right.dropWhile isWord := by
          rw [word]
  · rw [word, List.length_append, List.length_cons]
    omega

private theorem isWord_of_mem_wordAt {row : List UInt8} {column : Nat} {b : UInt8} (member : b ∈ wordAt row column) :
    isWord b = true := by
  unfold wordAt at member
  rcases List.mem_append.1 member with left | right
  · exact List.mem_takeWhile_imp (List.mem_reverse.1 left)
  · exact List.mem_takeWhile_imp right

variable {s : List Char} {before left right behind part : List UInt8} {b c : UInt8}

private theorem exists_bracketed (source : encode s = before ++ (left ++ b :: right) ++ behind)
    (closes : closer? b = some c)
    (closed : upToCloser b c 0 ((encode s).drop (before.length + left.length)) = some part) :
    ∃ text, encode text = part ∧ IsAround text s (before.length + left.length) := by
  obtain ⟨lowOpener, lowCloser⟩ := low_of_closer? closes
  have cut : encode s = before ++ left ++ b :: (right ++ behind) := by
    rw [source]
    simp
  have start : (before ++ left).length = before.length + left.length := List.length_append
  rw [cut, List.drop_left' start] at closed
  obtain ⟨⟨after, rest⟩, ends⟩ := upToCloser_spec closed
  cases part with
  | nil => cases ends
  | cons d inner =>
    obtain rfl : d = b := (List.cons.inj rest).1
    rw [← rest, ← List.append_assoc] at cut
    -- The bytes in between need no look: text that is cut at its ends is whole inside.
    refine exists_isAround cut (Nat.le_of_eq start) ?_ ?_ ?_
    · rw [start, List.length_cons]
      omega
    · rintro e ⟨⟩
      exact lowOpener
    · rw [ends]
      rintro e ⟨⟩
      exact lowCloser

private theorem exists_word (source : encode s = before ++ (left ++ b :: right) ++ behind) (found : isWord b = true) :
    ∃ text, encode text = wordAt (left ++ b :: right) left.length ∧
      IsAround text s (before.length + left.length) := by
  obtain ⟨ahead, after, row, starts, ends⟩ := exists_wordAt found
  have cut : encode s =
      before ++ ahead ++ wordAt (left ++ b :: right) left.length ++ (after ++ behind) := by
    rw [source]
    conv_lhs => rw [row]
    simp
  refine exists_isAround cut ?_ ?_ ?_ ?_
  · rw [List.length_append]
    omega
  · rw [List.length_append]
    omega
  · exact fun e first => low_of_isWord (isWord_of_mem_wordAt (List.mem_of_mem_head? first))
  · exact fun e last => low_of_isWord (isWord_of_mem_wordAt (List.mem_of_getLast? last))

private theorem isAround_row {row column : Nat} {line : List Char} (found : (rowsOf s)[row]? = some line)
    (inside : column < (encode line).length) : IsAround line s (offset s row column) := by
  obtain ⟨below, place⟩ := Text.exists_below found
  exact ⟨above s row, below, place, Nat.le_add_right _ _, Nat.add_lt_add_left inside _⟩

private theorem Excerpt.of_encode {row column : Nat} (here : byteAt? s row column = some b) (low : b.toNat < 0x80)
    (inside : ∃ text, encode text = part ∧ IsAround text s (offset s row column)) :
    Excerpt s row column (Node.text? ⟨some part⟩) := by
  obtain ⟨text, rfl, around⟩ := inside
  show Excerpt s row column (some (String.ofList (Text.Utf8.decodeLossy (encode text))))
  rw [Text.Utf8.decodeLossy_encode]
  exact .part here low around

private theorem exists_place {row column : Nat} {line : List Char} (found : (rowsOf s)[row]? = some line)
    (byte : (encode line)[column]? = some b) :
    ∃ left right behind, encode line = left ++ b :: right ∧ left.length = column ∧
      encode s = encode (above s row) ++ (left ++ b :: right) ++ behind := by
  obtain ⟨bound, own⟩ := List.getElem?_eq_some_iff.1 byte
  obtain ⟨below, place⟩ := Text.exists_below found
  have cut : encode line = (encode line).take column ++ b :: (encode line).drop (column + 1) := by
    rw [← own, ← List.drop_eq_getElem_cons, List.take_append_drop]
  refine ⟨_, _, encode below, cut, List.length_take_of_le (Nat.le_of_lt bound), ?_⟩
  rw [← cut]
  conv_lhs => rw [place]
  simp

/-- At each byte of a text its node reads as an excerpt. -/
private theorem excerpt_nodeAtByte {row column : Nat} {line : List Char} (found : (rowsOf s)[row]? = some line)
    (byte : (encode line)[column]? = some b) :
    Excerpt s row column
      (nodeAtByte (encode s) (encode line) (rowStart (rows (encode s)) row) column b).text? := by
  have here : byteAt? s row column = some b := by
    unfold byteAt?
    rw [found]
    exact byte
  obtain ⟨left, right, behind, cut, rfl, source⟩ := exists_place found byte
  unfold nodeAtByte
  rw [rowStart_encode]
  cases closes : closer? b with
  | some c =>
    dsimp only
    cases closed : upToCloser b c 0 ((encode s).drop ((encode (above s row)).length + left.length)) with
    | none => exact .unclosed here (by rw [closes]; rfl)
    | some part => exact .of_encode here (low_of_closer? closes).1 (exists_bracketed source closes closed)
  | none =>
    dsimp only
    split_ifs with beyond word
    · rw [UInt8.le_iff_toNat_le] at beyond
      show Excerpt s row left.length (some (String.ofList (Text.Utf8.decodeLossy [b])))
      rw [Text.Utf8.decodeLossy_singleton beyond]
      exact .scrap here beyond
    · rw [cut]
      exact .of_encode here (low_of_isWord word) (exists_word source word)
    · have low : b.toNat < 0x80 := Nat.lt_of_not_le fun high => beyond (UInt8.le_iff_toNat_le.2 high)
      exact .of_encode here low ⟨line, rfl, isAround_row found (List.getElem?_eq_some_iff.1 byte).1⟩

private theorem excerpt_node? (text : String) (row column : Nat) :
    Excerpt text.toList row column (((tree text).node? row column).bind Node.text?) := by
  have inside : (0 : Int) ≤ row ∧ (0 : Int) ≤ column := ⟨Int.natCast_nonneg row, Int.natCast_nonneg column⟩
  unfold tree
  dsimp only
  rw [if_pos inside, Int.toNat_natCast, Int.toNat_natCast]
  unfold node?
  dsimp only
  rw [rows_encode, List.getElem?_map]
  cases found : (rowsOf text.toList)[row]? with
  | none => exact .beyond (List.getElem?_eq_none_iff.1 found)
  | some line =>
    dsimp only [Option.map_some]
    cases byte : (encode line)[column]? with
    | some b =>
      rw [← rows_encode]
      exact excerpt_nodeAtByte found byte
    | none =>
      have behind : byteAt? text.toList row column = none := by
        unfold byteAt?
        rw [found]
        exact byte
      show Excerpt text.toList row column (some (String.ofList (Text.Utf8.decodeLossy (encode text.toList))))
      rw [Text.Utf8.decodeLossy_encode]
      exact .whole (List.getElem?_eq_some_iff.1 found).1 behind

end Tree.Brackets

namespace Forest

open HintLine.Tree.Brackets (Excerpt)

/-- What is done to the trees of buffers: a text is parsed as that of a buffer, or the tree of a buffer is felled. -/
inductive Change where
  | parsed (buffer : Ident) (text : String)
  | felled (buffer : Ident)

namespace Change

def buffer : Change → Ident
  | parsed buffer _ => buffer
  | felled buffer => buffer

def text? : Change → Option String
  | parsed _ text => some text
  | felled _ => none

def after (f : Forest) : Change → Forest
  | parsed buffer text => f.grow buffer text
  | felled buffer => f.fell buffer

/-- The change, made in a session. -/
def act : Change → Act Session Unit
  | parsed buffer text => Session.parse buffer text
  | felled buffer => Session.fell buffer

end Change

/-- The trees that are left of a history. -/
def grown (history : List Change) : Forest := history.foldl Change.after Table.empty

def about (buffer : Ident) (history : List Change) : List Change := history.filter fun c => c.buffer = buffer

/-- The text that was last parsed for a buffer, unless its tree was felled since. -/
def latest? (buffer : Ident) (history : List Change) : Option String :=
  (about buffer history).getLast?.bind Change.text?

private theorem forest_changes (history : List Change) (s : Session) :
    (history.foldl (fun s c => (c.act s).state) s).forest = s.forest.map (history.foldl Change.after) := by
  induction history generalizing s with
  | nil => exact Option.map_id_apply.symm
  | cons c history ih =>
    have step : (c.act s).state.forest = s.forest.map fun forest => c.after forest := by cases c <;> rfl
    rw [List.foldl_cons, ih, step, Option.map_map]
    rfl

private theorem get?_after (f : Forest) (change : Change) (buffer : Ident) :
    (change.after f).get? buffer =
      if buffer = change.buffer then change.text?.map Tree.Brackets.tree else f.get? buffer := by
  cases change with
  | parsed b text => exact Table.get?_insert f buffer b (Tree.Brackets.tree text)
  | felled b => exact Table.get?_erase f buffer b

private theorem get?_grown (history : List Change) (buffer : Ident) :
    (grown history).get? buffer = (latest? buffer history).map Tree.Brackets.tree := by
  induction history using List.reverseRecOn with
  | nil => rfl
  | append_singleton history change ih =>
    unfold grown latest? about at ih ⊢
    rw [List.foldl_concat, get?_after, List.filter_append, List.getLast?_append]
    by_cases own : change.buffer = buffer
    · rw [if_pos own.symm, List.filter_singleton, decide_eq_true own]
      rfl
    · rw [if_neg fun same => own same.symm, ih, List.filter_singleton, decide_eq_false own]
      rfl

private theorem latest?_about (buffer : Ident) (history : List Change) :
    latest? buffer (about buffer history) = latest? buffer history := by
  unfold latest? about
  rw [List.filter_filter]
  simp

private theorem text?_eq (f : Forest) (buffer : Ident) (row column : Int) :
    f.text? buffer row column = (f.get? buffer).bind fun t => (t.node? row column).bind Node.text? := by
  unfold text? bytes?
  cases f.get? buffer with
  | none => rfl
  | some t => exact Option.map_bind

private theorem nodeText_congr {σ : Type} {f g : Forest} {buffer : Ident} (same : f.get? buffer = g.get? buffer) :
    (f.nodeText (σ := σ)) buffer = g.nodeText buffer := by
  funext row column
  unfold nodeText
  rw [text?_eq, text?_eq, same]

/-- Whatever texts were parsed and trees felled, nothing is read where a buffer has no text, and an excerpt of its
latest text where it has one; what was done to other buffers makes no difference. The trees that are read are those of
a session in which that was done. -/
theorem excerpt_of_latest {σ : Type} (history : List Change) (buffer : Ident) (row column : Nat) (s : σ) :
    (∃ read, ((grown history).nodeText buffer row column s).outcome = .ok read ∧
      (latest? buffer history = none → read = none) ∧
      ∀ text, latest? buffer history = some text → Excerpt text.toList row column read) ∧
    (grown history).nodeText buffer row column s = (grown (about buffer history)).nodeText buffer row column s ∧
    ∀ start : Session, start.forest = some Table.empty →
      (history.foldl (fun s c => (c.act s).state) start).forest = some (grown history) := by
  refine ⟨?_, ?_, ?_⟩
  · have read := text?_eq (grown history) buffer row column
    rw [get?_grown] at read
    refine ⟨_, outcome_nodeText _ buffer row column s, ?_, ?_⟩
    · intro gone
      rw [read, gone]
      rfl
    · intro text latest
      rw [read, latest]
      exact Tree.Brackets.excerpt_node? text row column
  · have same : (grown history).get? buffer = (grown (about buffer history)).get? buffer := by
      rw [get?_grown, get?_grown, latest?_about]
    rw [nodeText_congr same]
  · intro start bare
    rw [forest_changes, bare]
    rfl

/-- Brackets over two rows, around characters of several bytes; the tree of another buffer is felled. -/
private def overRows : List Change := [.parsed (.number 1) "é = (ü\nπ)", .felled (.number 2)]

theorem excerpt_of_latest_over_rows :
    latest? (.number 1) overRows = some "é = (ü\nπ)" ∧ Excerpt "é = (ü\nπ)".toList 0 5 (some "(ü\nπ)") := by
  obtain ⟨⟨read, outcome, -, excerpt⟩, -⟩ := excerpt_of_latest overRows (.number 1) 0 5 ()
  have latest : latest? (.number 1) overRows = some "é = (ü\nπ)" := by decide
  have bracketed : ((grown overRows).nodeText (.number 1) (0 : Nat) (5 : Nat) ()).outcome = .ok (some "(ü\nπ)") := by
    decide +kernel
  obtain rfl := Except.ok.inj (outcome.symm.trans bracketed)
  exact ⟨latest, excerpt _ latest⟩

end Forest

end HintLine
