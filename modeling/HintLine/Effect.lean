import HintLine.Client.Call
import HintLine.Ident
import HintLine.Log.Journal
import HintLine.Message
import HintLine.Response

/-!
What an action does that can be seen from outside, one effect at a time.
-/

set_option autoImplicit false

namespace HintLine

/-- One thing done: a record logged, by this library or by another one, the journal set up anew, a syntax node looked
up, text written to standard output or standard error, a call on a client, a message passed on to the user, a listener
told that a buffer was closed, or the handler of a method called with a response. -/
inductive Effect where
  | log (record : Log.Record)
  | foreign (record : Log.Record)
  | journal (setup : Log.Setup)
  | lookup (buffer : Ident) (row column : Int)
  | out (text : String)
  | err (text : String)
  | call (call : Client.Call)
  | message (text : String) (kind : Message.Kind)
  | closed (listener : String) (buffer : Ident)
  | handled (method : String) (response : Response)
  deriving DecidableEq, Repr

namespace Effect

/-- The record, if the effect is one of this library. -/
def record? : Effect → Option Log.Record
  | log r => some r
  | _ => none

/-- The call, if the effect is one. -/
def call? : Effect → Option Client.Call
  | call c => some c
  | _ => none

/-- The message, if the effect is one. -/
def message? : Effect → Option (String × Message.Kind)
  | message text kind => some (text, kind)
  | _ => none

/-- The node looked up, if the effect is a look-up. -/
def lookup? : Effect → Option (Ident × Int × Int)
  | lookup buffer row column => some (buffer, row, column)
  | _ => none

/-- The listener and the buffer, if the effect is a listener being told. -/
def closed? : Effect → Option (String × Ident)
  | closed listener buffer => some (listener, buffer)
  | _ => none

/-- The method and the response, if the effect is a handler being called. -/
def handled? : Effect → Option (String × Response)
  | handled method response => some (method, response)
  | _ => none

def outText : Effect → String
  | out text => text
  | _ => ""

def errText : Effect → String
  | err text => text
  | _ => ""

def journalEvent? : Effect → Option Log.Journal.Event
  | log r => some (.record r)
  | foreign r => some (.foreign r)
  | journal s => some (.setUp s)
  | _ => none

end Effect

/-- The effects of a run, in order. -/
abbrev Trace := List Effect

namespace Trace

def records (t : Trace) : List Log.Record := t.filterMap Effect.record?

def calls (t : Trace) : List Client.Call := t.filterMap Effect.call?

def messages (t : Trace) : List (String × Message.Kind) := t.filterMap Effect.message?

def lookups (t : Trace) : List (Ident × Int × Int) := t.filterMap Effect.lookup?

/-- The listeners told, each with the buffer. -/
def closings (t : Trace) : List (String × Ident) := t.filterMap Effect.closed?

/-- The handlers called: for which methods, and with which responses. -/
def handled (t : Trace) : List (String × Response) := t.filterMap Effect.handled?

def output (t : Trace) : String := String.join (t.map Effect.outText)

def errors (t : Trace) : String := String.join (t.map Effect.errText)

@[simp] theorem lookups_append (s t : Trace) : lookups (s ++ t) = s.lookups ++ t.lookups := by
  simp [lookups]

@[simp] theorem handled_append (s t : Trace) : handled (s ++ t) = s.handled ++ t.handled := by
  simp [handled]

end Trace

end HintLine
