import HintLine.Client.Server
import HintLine.Editor

/-!
The clients of a session, the buffers they were told of, and the requests on their way. A request passes
through three places: it is scheduled, it is in flight once it was sent, and when its answer has come it is
scheduled again, for delivery. What is scheduled is done in the order in which it came. A request is numbered
when it is sent, and a number is never used twice.

Each request is made by a task. The tasks that are pending are kept apart from all that: a task is added when it
is created and discarded when it is over, however it ended.
-/

set_option autoImplicit false

namespace HintLine.Client

/-- What is known of a client: whether its server gives hints, and how calls on it end. -/
structure Connection where
  provides : Bool
  didOpen : Except Fault Unit
  shutdown : Except Fault Unit

def Server.connection (s : Server) : Connection := ⟨s.provides, s.didOpen, s.shutdown⟩

/-- Work that is due: a request that is to be sent, or an answer that is to be delivered. -/
inductive Job where
  | send (buffer client : Ident)
  | deliver (request : Request) (answer : Answer)
  deriving DecidableEq, Repr

/-- A task that makes a request to a client for a buffer. Tasks are told apart by their tickets; once a task has
started it knows the number of its request. -/
structure Task where
  ticket : Nat
  buffer : Ident
  client : Ident
  number : Option Nat
  deriving DecidableEq, Repr

namespace Task

/-- New tasks, one for each pair of a buffer and a client, with tickets from a first one on. -/
def created (first : Nat) : List (Ident × Ident) → List Task
  | [] => []
  | p :: ps => ⟨first, p.1, p.2, none⟩ :: created (first + 1) ps

/-- The first of the tasks that has not started starts; its request gets a number. -/
def started (number : Nat) : List Task → List Task
  | [] => []
  | t :: ts => if t.number = none then { t with number := some number } :: ts else t :: started number ts

end Task

/-- The clients, the clients that each buffer is attached to, the jobs that are due, the requests in flight,
the number of the next request, the tasks that are pending, and the ticket of the next task. -/
structure Registry where
  clients : Table Ident Connection
  attached : Table Ident (List Ident)
  due : List Job
  inFlight : List Request
  nextNumber : Nat
  tasks : List Task
  nextTicket : Nat

namespace Registry

def new : Registry := ⟨Table.empty, Table.empty, [], [], 1, [], 1⟩

def supports (reg : Registry) (client : Ident) : Bool :=
  match reg.clients.get? client with
  | some c => c.provides
  | none => false

def attachedTo (reg : Registry) (buffer : Ident) : List Ident := (reg.attached.get? buffer).getD []

def pending (reg : Registry) : Nat := reg.tasks.length

/-- Takes a client in, in place of one of the same name. -/
def register (reg : Registry) (client : Ident) (c : Connection) : Registry :=
  { reg with clients := reg.clients.insert client c }

/-- Takes a client out, once from the list of each buffer. -/
def unregister (reg : Registry) (client : Ident) : Registry :=
  { reg with
    clients := reg.clients.erase client
    attached := reg.attached.map (·.erase client) }

def link (reg : Registry) (buffer client : Ident) : Registry :=
  { reg with attached := reg.attached.insert buffer (reg.attachedTo buffer ++ [client]) }

/-- Schedules requests, each for a buffer with a client, and adds the tasks that are to make them. -/
def schedule (reg : Registry) (asks : List (Ident × Ident)) : Registry :=
  { reg with
    due := reg.due ++ asks.map fun p => .send p.1 p.2
    tasks := reg.tasks ++ Task.created reg.nextTicket asks
    nextTicket := reg.nextTicket + asks.length }

/-- Schedules a request with each client of a buffer that gives hints. -/
def enable (reg : Registry) (buffer : Ident) : Registry :=
  reg.schedule (((reg.attachedTo buffer).filter reg.supports).map fun client => (buffer, client))

/-- The first job that is due, and the registry without it. -/
def nextJob? (reg : Registry) : Option (Job × Registry) :=
  match reg.due with
  | [] => none
  | job :: due => some (job, { reg with due })

/-- Tasks start in the order in which they were created: the first that has not started gets the request. -/
def numbered (reg : Registry) (buffer client : Ident) : Request × Registry :=
  (⟨reg.nextNumber, buffer, client⟩,
    { reg with
      nextNumber := reg.nextNumber + 1
      tasks := Task.started reg.nextNumber reg.tasks })

/-- Discards the task of a request that is over. -/
def discard (reg : Registry) (r : Request) : Registry :=
  { reg with tasks := reg.tasks.filter fun t => t.number ≠ some r.number }

/-- Schedules the delivery of an answer to the request that stands at an index among those in flight. -/
def answered? (reg : Registry) (index : Nat) (answer : Answer) : Option Registry :=
  reg.inFlight[index]?.map fun r =>
    { reg with
      due := reg.due ++ [.deliver r answer]
      inFlight := reg.inFlight.eraseIdx index }

/-- Answers for requests, in order; where answers run out there are no hints. -/
def deliveries : List Request → List Answer → List Job
  | [], _ => []
  | r :: rs, [] => .deliver r (.hints none) :: deliveries rs []
  | r :: rs, a :: as => .deliver r a :: deliveries rs as

/-- Schedules the delivery of answers to all requests in flight. -/
def answeredAll (reg : Registry) (answers : List Answer) : Registry :=
  { reg with
    due := reg.due ++ deliveries reg.inFlight answers
    inFlight := [] }

/-- Tells a client that a buffer was opened; from then on the two are attached. -/
def attach (find : Ident → Option Buffer) (buffer client : Ident) : Act Registry Unit := do
  match find buffer, (← Act.get).clients.get? client with
  | some b, some c =>
    Act.emit (.call (.didOpen client b.uri b.languageId b.version b.text))
    Act.ofExcept c.didOpen
    Act.modify (·.link buffer client)
  | _, _ => Act.fail (.cannotAttach buffer client)

/-- Sends a request, which covers the whole buffer. When the buffer or the client is gone by now nothing is
sent, and the request comes back at once. -/
def send (find : Ident → Option Buffer) (buffer client : Ident) : Act Registry (Option Request) := do
  let (request, reg) := (← Act.get).numbered buffer client
  Act.modify fun _ => reg
  match find buffer, reg.clients.get? client with
  | some b, some _ =>
    Act.emit (.call (.inlayHint client b.uri b.lineCount))
    Act.modify fun reg => { reg with inFlight := reg.inFlight ++ [request] }
    return none
  | _, _ =>
    Act.log .trace s!"Buffer {buffer.text} or client {client.text} is gone, skip request"
    return some request

@[simp] theorem schedule_nil (reg : Registry) : reg.schedule [] = reg := by simp [schedule, Task.created]

end Registry

end HintLine.Client
