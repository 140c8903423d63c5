import HintLine.Ident

/-!
What a language client is asked to do, in the order in which it is asked.
-/

set_option autoImplicit false

namespace HintLine.Client

/-- A call on a client. A request for hints covers the document from its start to the start of line `lines`. -/
inductive Call where
  | create (name version : String)
  | launch (argv : List String) (directory : String)
  | handshake (rootUri : String) (announcesHints : Bool)
  | ready
  | didOpen (client : Ident) (uri languageId : String) (version : Nat) (text : String)
  | inlayHint (client : Ident) (uri : String) (lines : Nat)
  | shutdown (client : Ident)
  | exit (client : Ident)
  | stop (client : Ident)
  deriving DecidableEq, Repr

end HintLine.Client
