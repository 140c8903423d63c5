/-!
Errors that a language server answers with, by the classes of the protocol. An error without a message of its
own has the message of its class.
-/

set_option autoImplicit false

namespace HintLine.Client

/-- The classes of errors. -/
inductive RpcClass where
  | base
  | internal
  | invalidParams
  | methodNotFound
  | parse
  deriving DecidableEq, Repr

/-- What a class of errors says when nothing else is said. -/
def RpcClass.message : RpcClass → String
  | base => ""
  | internal => "Internal Error"
  | invalidParams => "Invalid Params"
  | methodNotFound => "Method Not Found"
  | parse => "Parse Error"

/-- An error that a server answers with. -/
structure RpcError where
  kind : RpcClass
  message : String
  deriving DecidableEq, Repr

/-- An error with its own message, or else with that of its class. -/
def RpcError.ofMessage (kind : RpcClass) (message : String) : RpcError :=
  ⟨kind, if message = "" then kind.message else message⟩

end HintLine.Client
