import HintLine.Act

/-!
Where messages for the user go. An outlet passes a message on, or fails to; while there is none, messages are
lost and the log says so.
-/

set_option autoImplicit false

namespace HintLine.Message

/-- What passing a message on does, if it does not fail. -/
abbrev Outlet := (text : String) → Kind → Except Fault Trace

/-- An outlet that shows the messages it was given and never fails. -/
def Outlet.recording : Outlet := fun text kind => .ok [.message text kind]

def send {σ : Type} (outlet : Option Outlet) (text : String) (kind : Kind) : Act σ Unit := do
  Act.log .trace s!"User message: [{kind.name}] {text}"
  match outlet with
  | some pass => Act.emits (← Act.ofExcept (pass text kind))
  | none => Act.log .error "Sender of user messages is not initialized"

end HintLine.Message
