import HintLine.Fault
import HintLine.Response

/-!
What a language server does when it is asked: for each call it either goes along or fails, and to a request
for hints it gives an answer.
-/

set_option autoImplicit false

namespace HintLine.Client

/-- An answer to a request for hints: hints or nothing, an error of the protocol, or no answer at all because
something else went wrong. -/
inductive Answer where
  | hints (result : Option (List Inlay))
  | refused (e : RpcError)
  | broken (e : Fault)
  deriving DecidableEq, Repr

/-- How a server behaves: whether it says that it gives hints, how each call on it ends, and what it answers
to a request for hints. -/
structure Server where
  provides : Bool
  launch : Except Fault Unit
  handshake : Except Fault Unit
  didOpen : Except Fault Unit
  shutdown : Except Fault Unit
  answer : Answer

/-- A server that goes along with everything and has no hints. -/
def Server.willing (provides : Bool) : Server := ⟨provides, .ok (), .ok (), .ok (), .ok (), .hints none⟩

/-- A request for the hints of a buffer. Requests are numbered in the order in which they are made. -/
structure Request where
  number : Nat
  buffer : Ident
  client : Ident
  deriving DecidableEq, Repr

/-- The response to a request to which nothing was answered. -/
def Request.unanswered (r : Request) : Response := ⟨r.buffer, r.client, some r.number, none, none⟩

/-- The response that an answer to a request makes. An error of the protocol is one of them. -/
def Request.response (r : Request) : Answer → Except Fault Response
  | .hints result => .ok { r.unanswered with result }
  | .refused e => .ok { r.unanswered with error := some e.message }
  | .broken e => .error e

end HintLine.Client
