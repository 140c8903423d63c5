import HintLine.Hint.Basic
import HintLine.Ident

/-!
What a language server's answer to a request for hints comes to.
-/

set_option autoImplicit false

namespace HintLine

/-- A server's answer, with the buffer and the client it belongs to. Requests are numbered as they are made;
an answer need not say which one it is for. -/
structure Response where
  buffer : Ident
  client : Ident
  request : Option Int
  error : Option String
  result : Option (List Inlay)
  deriving DecidableEq, Repr

end HintLine
