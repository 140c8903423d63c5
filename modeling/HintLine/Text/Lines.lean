/-!
Lines of a text. `split` knows every Unicode line boundary and takes a carriage return with the line feed
after it as one; a boundary at the very end opens no further line. `unify` writes every line end of the
three common conventions as a line feed.
-/

set_option autoImplicit false

namespace HintLine.Text.Lines

/-- The characters that end a line: line feed, vertical tab, form feed, carriage return, the three
information separators above the unit separator, next line, and the line and paragraph separators. -/
def isBreak (c : Char) : Bool :=
  let n := c.toNat
  (10 ≤ n && n ≤ 13) || (28 ≤ n && n ≤ 30) || n == 0x85 || n == 0x2028 || n == 0x2029

/-- The lines of a text, without what ends them. -/
def split : List Char → List (List Char)
  | [] => []
  | '\r' :: '\n' :: rest => [] :: split rest
  | c :: rest =>
    if isBreak c then [] :: split rest
    else
      match split rest with
      | [] => [[c]]
      | line :: lines => (c :: line) :: lines

/-- How many lines a text has; the empty text has none. -/
def count (s : List Char) : Nat := (split s).length

def unify : List Char → List Char
  | [] => []
  | '\r' :: '\n' :: rest => '\n' :: unify rest
  | '\r' :: rest => '\n' :: unify rest
  | c :: rest => c :: unify rest

theorem split_ne_nil {s : List Char} (h : s ≠ []) : split s ≠ [] := by
  fun_cases split s <;> simp_all

end HintLine.Text.Lines
