import HintLine.Session.Basic

/-!
Requests for hints and what becomes of them. Enabling hints in a buffer schedules requests; settling does all
that is due, in order; what a server answers is scheduled and delivered by the next settling. An answer is
delivered to the handler of its method, that is to the collector, which decides whether it still counts.
-/

set_option autoImplicit false

namespace HintLine.Session

open HintLine.Client (Answer Job Registry Request)

/-- What is called with the responses to requests, for each method. -/
abbrev Handlers := Table String (Response → Act Session Unit)

/-- Passes a response to the handler of its method. -/
def dispatchTo (handlers : Handlers) (method : String) (r : Response) : Act Session Unit := do
  match handlers.get? method with
  | some handle =>
    Act.emit (.handled method r)
    handle r
  | none => Act.log .warning s!"No handler for {method}, response dropped"

def hintMethod : String := "textDocument/inlayHint"

def collect (r : Response) : Act Session Unit := do
  onCollector (Collector.receive (← Act.get).surroundings r)

/-- The handlers of a session: the collector gets the responses to requests for hints. -/
def handlers : Handlers := Table.empty.insert hintMethod collect

def methods : List String := handlers.keys

def dispatch (method : String) (r : Response) : Act Session Unit := dispatchTo handlers method r

def attach (buffer client : Ident) : Act Session Unit := do
  onRegistry (Registry.attach (← Act.get).editor.buffer? buffer client)

def enable (buffer : Ident) : Act Session Unit := onRegistry (Act.modify (·.enable buffer))

/-- Enables hints in a buffer that a client was attached to, if that is to happen by itself and the client
gives hints. -/
def attached (buffer client : Ident) : Act Session Unit := do
  let s ← Act.get
  if s.settings.autoEnable && client ≠ .absent then
    if s.registry.supports client then
      Act.log .debug s!"Enable inlay hints in buffer {buffer.text} for client {client.text}"
      enable buffer
    else Act.log .trace s!"Client {client.text} doesn't support inlay hints"

/-- Runs the end of a request, and discards its task in any case. -/
def finish (request : Request) (x : Act Session Unit) : Act Session Unit :=
  Act.ensuring x (onRegistry (Act.modify (·.discard request)))

/-- Does a job. A request that is not sent is over at once, and one that was sent is over when its answer was
delivered; either way its response is passed on. -/
def performTo (pass : Response → Act Session Unit) : Job → Act Session Unit
  | .send buffer client => do
    match ← onRegistry (Registry.send (← Act.get).editor.buffer? buffer client) with
    | some request => finish request (pass request.unanswered)
    | none => return
  | .deliver request answer => finish request do pass (← Act.ofExcept (request.response answer))

/-- Does the first job that is due. -/
def advanceTo (pass : Response → Act Session Unit) : Act Session Unit := do
  match (← Act.get).registry.nextJob? with
  | none => return
  | some (job, registry) =>
    Act.modify fun s => { s with registry }
    performTo pass job

def perform : Job → Act Session Unit := performTo (dispatch hintMethod)

def advance : Act Session Unit := advanceTo (dispatch hintMethod)

/-- Does a number of jobs, and tells which faults there were. -/
def advanceBy : Nat → Act Session (List Fault)
  | 0 => return []
  | n + 1 => do
    let outcome ← Act.attempt advance
    let faults ← advanceBy n
    match outcome with
    | .ok _ => return faults
    | .error e => return e :: faults

/-- Does all jobs that are due, and tells which faults there were. -/
def settle : Act Session (List Fault) := do advanceBy (← Act.get).registry.due.length

/-- Takes in the answer to a request in flight, by its index; tells whether there is such a request. -/
def respond (index : Nat) (answer : Answer) : Act Session Bool := do
  match (← Act.get).registry.answered? index answer with
  | none => return false
  | some registry =>
    Act.modify fun s => { s with registry }
    return true

/-- Waits until all requests are answered and delivered, those first whose answers are there; no task pending, there
is nothing to wait for. The first fault among them is the fault of the wait. -/
def wait (answers : List Answer) : Act Session Unit := do
  if (← Act.get).registry.tasks.isEmpty then return
  let early ← settle
  onRegistry (Act.modify (·.answeredAll answers))
  match early ++ (← settle) with
  | [] => return
  | e :: _ => Act.fail e

end HintLine.Session
