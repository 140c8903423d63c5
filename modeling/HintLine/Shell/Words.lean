/-!
The words of a command line, as a shell splits it: blanks part words, quotes hold them together, a backslash
takes the next character as it is. Between double quotes a backslash does so only before a double quote or
another backslash.
-/

set_option autoImplicit false

namespace HintLine.Shell.Words

/-- Why a command line has no words. -/
inductive Failure where
  | unclosedQuote
  | nothingEscaped
  deriving DecidableEq, Repr

def Failure.message : Failure → String
  | unclosedQuote => "No closing quotation"
  | nothingEscaped => "No escaped character"

def isSeparator (c : Char) : Bool := c = ' ' || c = '\t' || c = '\r' || c = '\n'

/-- Where in a word the reader is. -/
inductive Place where
  | outside
  | inside
  | apostrophes
  | quotes
  | escaped
  | escapedInQuotes
  deriving DecidableEq, Repr

/-- The words of a text. `word` holds the characters of the word being read, last first. -/
def read : Place → (word : List Char) → List Char → Except Failure (List (List Char))
  | .outside, _, [] => .ok []
  | .inside, word, [] => .ok [word.reverse]
  | .apostrophes, _, [] => .error .unclosedQuote
  | .quotes, _, [] => .error .unclosedQuote
  | .escaped, _, [] => .error .nothingEscaped
  | .escapedInQuotes, _, [] => .error .nothingEscaped
  | .outside, word, c :: rest =>
    if isSeparator c then read .outside [] rest
    else if c = '\\' then read .escaped word rest
    else if c = '\'' then read .apostrophes word rest
    else if c = '"' then read .quotes word rest
    else read .inside (c :: word) rest
  | .inside, word, c :: rest =>
    if isSeparator c then (read .outside [] rest).map (word.reverse :: ·)
    else if c = '\\' then read .escaped word rest
    else if c = '\'' then read .apostrophes word rest
    else if c = '"' then read .quotes word rest
    else read .inside (c :: word) rest
  | .apostrophes, word, c :: rest =>
    if c = '\'' then read .inside word rest else read .apostrophes (c :: word) rest
  | .quotes, word, c :: rest =>
    if c = '"' then read .inside word rest
    else if c = '\\' then read .escapedInQuotes word rest
    else read .quotes (c :: word) rest
  | .escaped, word, c :: rest => read .inside (c :: word) rest
  | .escapedInQuotes, word, c :: rest =>
    if c = '"' || c = '\\' then read .quotes (c :: word) rest
    else read .quotes (c :: '\\' :: word) rest

def split (command : String) : Except Failure (List String) :=
  (read .outside [] command.toList).map (·.map String.ofList)

end HintLine.Shell.Words
