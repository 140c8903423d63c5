/-!
Text without control sequences. A sequence is an escape character, an opening bracket, parameter characters,
intermediate characters, and one final character; what only begins like a sequence stays.
-/

set_option autoImplicit false

namespace HintLine.Terminal.Plain

def isWithin (low high : Nat) (c : Char) : Bool := low ≤ c.toNat && c.toNat ≤ high

/-- Characters of parameters: digits and some punctuation. -/
def isParameter (c : Char) : Bool := isWithin 0x30 0x3F c

/-- Characters between the parameters and the final character. -/
def isIntermediate (c : Char) : Bool := isWithin 0x20 0x2F c

def isFinal (c : Char) : Bool := isWithin 0x40 0x7E c

/-- What follows a sequence whose escape character and bracket were read. -/
def afterBracket? (s : List Char) : Option (List Char) :=
  match (s.dropWhile isParameter).dropWhile isIntermediate with
  | c :: rest => if isFinal c then some rest else none
  | [] => none

/-- What is left of a text after its first sequence, if it starts with one. -/
def afterSequence? : List Char → Option (List Char)
  | '\x1b' :: '[' :: rest => afterBracket? rest
  | _ => none

theorem length_afterBracket? {s rest : List Char} (h : afterBracket? s = some rest) :
    rest.length < s.length := by
  unfold afterBracket? at h
  have h₁ := (List.dropWhile_sublist (l := s) isParameter).length_le
  have h₂ := (List.dropWhile_sublist (l := s.dropWhile isParameter) isIntermediate).length_le
  cases hs : (s.dropWhile isParameter).dropWhile isIntermediate with
  | nil => simp [hs] at h
  | cons c t =>
    rw [hs] at h h₂
    simp only [List.length_cons] at h₂
    by_cases hc : isFinal c = true
    · simp only [hc, if_true, Option.some.injEq] at h
      subst h
      omega
    · simp [hc] at h

theorem length_afterSequence? {s rest : List Char} (h : afterSequence? s = some rest) :
    rest.length < s.length := by
  unfold afterSequence? at h
  split at h
  · have := length_afterBracket? h
    simp only [List.length_cons]
    omega
  · simp at h

def strip (s : List Char) : List Char :=
  match _h : afterSequence? s with
  | some rest => strip rest
  | none =>
    match s with
    | [] => []
    | c :: rest => c :: strip rest
termination_by s.length
decreasing_by
  · exact length_afterSequence? _h
  · simp

def text (s : String) : String := String.ofList (strip s.toList)

/-- A text as it is written: with its control sequences only if colour is wanted. -/
def shown (colour : Option Bool) (s : String) : String := if colour = some true then s else text s

end HintLine.Terminal.Plain
