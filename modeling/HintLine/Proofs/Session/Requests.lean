import HintLine.Proofs.Collector.Receive
import HintLine.Session.Requests

/-!
What becomes of a session when hints are asked for and answers come in: for each action, the session that it
leaves. An answer reaches the collector alone; everything before that happens in the registry.
-/

set_option autoImplicit false

namespace HintLine.Session

open HintLine.Client (Answer Job Registry Request Task)

/-- The session after a response has reached the collector. -/
def taking (s : Session) (r : Response) : Session :=
  { s with collector := (Collector.receive s.surroundings r s.collector).state }

def withDue (s : Session) (due : List Job) : Session := { s with registry := { s.registry with due } }

/-- The session once the next request was numbered, for the first task that had not started. -/
def numbering (s : Session) : Session :=
  { s with
    registry :=
      { s.registry with
        nextNumber := s.registry.nextNumber + 1
        tasks := Task.started s.registry.nextNumber s.registry.tasks } }

/-- The session once a request is over. -/
def discarding (s : Session) (r : Request) : Session := { s with registry := s.registry.discard r }

def launching (s : Session) (r : Request) : Session :=
  { s with registry := { s.registry with inFlight := s.registry.inFlight ++ [r] } }

/-- The session once the answer to the request at an index was taken in. -/
def answering (s : Session) (index : Nat) (r : Request) (answer : Answer) : Session :=
  { s with
    registry :=
      { s.registry with
        due := s.registry.due ++ [.deliver r answer]
        inFlight := s.registry.inFlight.eraseIdx index } }

/-- The session once hints were asked for in a buffer. -/
def enabling (s : Session) (buffer : Ident) : Session := { s with registry := s.registry.enable buffer }

theorem get?_handlers (method : String) :
    handlers.get? method = if method = hintMethod then some collect else none := by
  unfold handlers
  rw [Table.get?_insert]
  rfl

private theorem dispatch_hint (r : Response) (s : Session) :
    dispatch hintMethod r s =
      ⟨(collect r s).outcome, s.taking r, .handled hintMethod r :: (collect r s).trace⟩ := by
  unfold dispatch dispatchTo
  rw [get?_handlers, if_pos rfl]
  rfl

theorem state_dispatch_hint (r : Response) (s : Session) : (dispatch hintMethod r s).state = s.taking r := by
  rw [dispatch_hint]

theorem state_dispatch (method : String) (r : Response) (s : Session) :
    (dispatch method r s).state = if method = hintMethod then s.taking r else s := by
  by_cases wanted : method = hintMethod
  · rw [if_pos wanted, wanted, state_dispatch_hint]
  · unfold dispatch dispatchTo
    rw [get?_handlers, if_neg wanted, if_neg wanted]
    rfl

/-- Whether a buffer and a client can be attached: the buffer is open, and the client is there and goes along. -/
def canAttach (s : Session) (buffer client : Ident) : Bool :=
  s.editor.isOpen buffer && (s.registry.clients.get? client).any fun c => c.didOpen.isOk

theorem attach_cases (buffer client : Ident) (s : Session) :
    (s.canAttach buffer client = true ∧ s.registry.clients.contains client = true ∧
      ∃ b, s.editor.buffer? buffer = some b ∧ attach buffer client s =
        ⟨.ok (), { s with registry := s.registry.link buffer client },
          [.call (.didOpen client b.uri b.languageId b.version b.text)]⟩) ∨
    (s.canAttach buffer client = false ∧ ∃ e t, attach buffer client s = ⟨.error e, s, t⟩) := by
  have isOpen : s.editor.isOpen buffer = (s.editor.buffer? buffer).isSome := rfl
  have isThere : s.registry.clients.contains client = (s.registry.clients.get? client).isSome := rfl
  have ran : attach buffer client s = onRegistry (Registry.attach s.editor.buffer? buffer client) s := rfl
  unfold onRegistry at ran
  rw [Act.zoom_apply] at ran
  unfold Registry.attach at ran
  rw [Act.bind_apply_ok (Act.get_apply _)] at ran
  dsimp only at ran
  unfold canAttach
  rw [ran, isOpen, isThere]
  cases s.editor.buffer? buffer with
  | none => exact Or.inr ⟨rfl, _, _, rfl⟩
  | some b =>
    cases s.registry.clients.get? client with
    | none => exact Or.inr ⟨rfl, _, _, rfl⟩
    | some c =>
      rw [Option.any_some]
      dsimp only
      cases c.didOpen with
      | ok u => exact Or.inl ⟨rfl, rfl, b, rfl, rfl⟩
      | error e => exact Or.inr ⟨rfl, _, _, rfl⟩

theorem state_attach (buffer client : Ident) (s : Session) :
    (attach buffer client s).state =
      if s.canAttach buffer client then { s with registry := s.registry.link buffer client } else s := by
  rcases attach_cases buffer client s with ⟨able, -, b, -, ran⟩ | ⟨unable, e, t, ran⟩
  · rw [ran, able, if_pos rfl]
  · rw [ran, unable, if_neg (by simp)]

theorem state_enable (buffer : Ident) (s : Session) : (enable buffer s).state = s.enabling buffer := rfl

/-- Whether hints are asked for by themselves once a client was attached: that is wanted, and the client gives
them. -/
def asksItself (s : Session) (client : Ident) : Bool :=
  s.settings.autoEnable && client ≠ .absent && s.registry.supports client

theorem attached_apply (buffer client : Ident) (s : Session) : ∃ t : Trace, (∀ e ∈ t, ∃ r, e = .log r) ∧
    attached buffer client s = ⟨.ok (), if s.asksItself client then s.enabling buffer else s, t⟩ := by
  have logged (r : Log.Record) : ∀ e ∈ ([.log r] : Trace), ∃ r, e = .log r :=
    fun e member => ⟨r, List.mem_singleton.1 member⟩
  unfold attached asksItself
  rw [Act.bind_apply_ok (Act.get_apply _)]
  cases s.settings.autoEnable && decide (client ≠ .absent) with
  | false => exact ⟨[], nofun, rfl⟩
  | true =>
    cases s.registry.supports client with
    | false => exact ⟨_, logged _, rfl⟩
    | true => exact ⟨_, logged _, rfl⟩

theorem state_attached (buffer client : Ident) (s : Session) :
    (attached buffer client s).state = if s.asksItself client then s.enabling buffer else s := by
  obtain ⟨t, -, ran⟩ := attached_apply buffer client s
  rw [ran]

def nextRequest (s : Session) (buffer client : Ident) : Request := ⟨s.registry.nextNumber, buffer, client⟩

/-- Whether a request can be sent: the buffer is open and the client is there. -/
def canSend (s : Session) (buffer client : Ident) : Bool :=
  s.editor.isOpen buffer && s.registry.clients.contains client

private theorem send_cases (buffer client : Ident) (s : Session) :
    (s.canSend buffer client = true ∧ ∃ b, s.editor.buffer? buffer = some b ∧
      onRegistry (Registry.send s.editor.buffer? buffer client) s =
        ⟨.ok none, s.numbering.launching (s.nextRequest buffer client),
          [.call (.inlayHint client b.uri b.lineCount)]⟩) ∨
    (s.canSend buffer client = false ∧ ∃ r, onRegistry (Registry.send s.editor.buffer? buffer client) s =
      ⟨.ok (some (s.nextRequest buffer client)), s.numbering, [.log r]⟩) := by
  have isOpen : s.editor.isOpen buffer = (s.editor.buffer? buffer).isSome := rfl
  have isThere : s.registry.clients.contains client = (s.registry.clients.get? client).isSome := rfl
  unfold onRegistry canSend
  rw [Act.zoom_apply, isOpen, isThere]
  unfold Registry.send
  rw [Act.bind_apply_ok (Act.get_apply _)]
  unfold Registry.numbered
  dsimp only
  cases s.editor.buffer? buffer with
  | none => exact Or.inr ⟨rfl, _, rfl⟩
  | some b =>
    cases s.registry.clients.get? client with
    | none => exact Or.inr ⟨rfl, _, rfl⟩
    | some c => exact Or.inl ⟨rfl, b, rfl, rfl⟩

private theorem finish_apply (request : Request) (x : Act Session Unit) (s : Session) :
    finish request x s = ⟨(x s).outcome, (x s).state.discarding request, (x s).trace⟩ := by
  have closed : Act.ensuring x (onRegistry (Act.modify (·.discard request))) s =
      ⟨(x s).outcome, (x s).state.discarding request, (x s).trace ++ []⟩ := rfl
  unfold finish
  rw [closed, List.append_nil]

/-- The session once a job was done. A request that is sent is numbered, and is in flight then or counts as answered
at once; an answer is delivered as the response that it makes, if it makes one. -/
def doing (s : Session) : Job → Session
  | .send buffer client =>
    if s.canSend buffer client then s.numbering.launching (s.nextRequest buffer client)
    else (s.numbering.taking (s.nextRequest buffer client).unanswered).discarding (s.nextRequest buffer client)
  | .deliver request answer =>
    match request.response answer with
    | .ok response => (s.taking response).discarding request
    | .error _ => s.discarding request

section Perform

variable (pass : Response → Act Session Unit)

theorem performTo_sent {buffer client : Ident} {s : Session} (able : s.canSend buffer client = true) :
    ∃ b, s.editor.buffer? buffer = some b ∧ performTo pass (.send buffer client) s =
      ⟨.ok (), s.numbering.launching (s.nextRequest buffer client),
        [.call (.inlayHint client b.uri b.lineCount)]⟩ := by
  rcases send_cases buffer client s with ⟨-, b, found, sent⟩ | ⟨unable, -⟩
  · refine ⟨b, found, ?_⟩
    rw [performTo, Act.bind_apply_ok (Act.get_apply _), Act.bind_apply_ok sent]
    rfl
  · rw [unable] at able
    cases able

theorem performTo_gone {buffer client : Ident} {s : Session} (unable : s.canSend buffer client = false) :
    let request := s.nextRequest buffer client
    let passed := pass request.unanswered s.numbering
    ∃ r, performTo pass (.send buffer client) s =
      ⟨passed.outcome, passed.state.discarding request, .log r :: passed.trace⟩ := by
  rcases send_cases buffer client s with ⟨able, -⟩ | ⟨-, r, sent⟩
  · rw [unable] at able
    cases able
  · refine ⟨r, ?_⟩
    rw [performTo, Act.bind_apply_ok (Act.get_apply _), Act.bind_apply_ok sent]
    dsimp only
    rw [finish_apply]
    rfl

theorem performTo_deliver {request : Request} {answer : Answer} {response : Response}
    (made : request.response answer = .ok response) (s : Session) :
    performTo pass (.deliver request answer) s =
      ⟨(pass response s).outcome, (pass response s).state.discarding request, (pass response s).trace⟩ := by
  rw [performTo, finish_apply, made, Act.bind_apply_ok (Act.ofExcept_apply _ s)]
  rfl

private theorem performTo_broken {request : Request} {answer : Answer} {e : Fault}
    (broken : request.response answer = .error e) (s : Session) :
    performTo pass (.deliver request answer) s = ⟨.error e, s.discarding request, []⟩ := by
  rw [performTo, finish_apply, broken]
  rfl

theorem advanceTo_nil {s : Session} (none : s.registry.due = []) : advanceTo pass s = ⟨.ok (), s, []⟩ := by
  unfold advanceTo Registry.nextJob?
  rw [Act.bind_apply_ok (Act.get_apply _), none]
  rfl

theorem advanceTo_cons {s : Session} {job : Job} {due : List Job} (jobs : s.registry.due = job :: due) :
    advanceTo pass s = performTo pass job (s.withDue due) := by
  unfold advanceTo Registry.nextJob?
  rw [Act.bind_apply_ok (Act.get_apply _), jobs]
  rfl

end Perform

private theorem state_perform (job : Job) (s : Session) : (perform job s).state = s.doing job := by
  unfold perform doing
  cases job with
  | send buffer client =>
    dsimp only
    split
    next able =>
      obtain ⟨b, -, ran⟩ := performTo_sent (dispatch hintMethod) able
      rw [ran]
    next unable =>
      obtain ⟨r, ran⟩ := performTo_gone (dispatch hintMethod) (eq_false_of_ne_true unable)
      rw [ran, state_dispatch_hint]
  | deliver request answer =>
    dsimp only
    split
    next response made => rw [performTo_deliver _ made, state_dispatch_hint]
    next e broken => rw [performTo_broken _ broken]

theorem state_advance (s : Session) :
    (advance s).state =
      match s.registry.due with
      | [] => s
      | job :: due => (s.withDue due).doing job := by
  unfold advance
  split
  next none => rw [advanceTo_nil _ none]
  next job due jobs =>
    rw [advanceTo_cons _ jobs]
    exact state_perform job (s.withDue due)

theorem state_respond (index : Nat) (answer : Answer) (s : Session) :
    (respond index answer s).state =
      match s.registry.inFlight[index]? with
      | none => s
      | some r => s.answering index r answer := by
  unfold respond Registry.answered?
  rw [Act.bind_apply_ok (Act.get_apply _)]
  dsimp only
  cases s.registry.inFlight[index]? with
  | none => rfl
  | some r => rfl

end HintLine.Session
