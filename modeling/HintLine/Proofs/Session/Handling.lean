import HintLine.Proofs.Session.Effects
import HintLine.Proofs.Session.Tasks
import HintLine.Proofs.Session.Turns

/-!
Turns in which responses go to any handlers. A record is kept of turns: what was asked for, what befell the requests,
which of them are finished, and the handlers that were called. The handler for hints may ask for more requests, and
clients may come and go on its account.
-/

set_option autoImplicit false

namespace HintLine

open HintLine.Client (Answer Job Registry Request RpcError Task)

/-- An answer as a server gives it: hints, or nothing, or an error of the protocol. -/
def Client.Answer.Proper (a : Answer) : Prop := ∀ e, a ≠ .broken e

/-- What befalls a request: its answer comes, or its buffer or client is gone when it is to be sent. -/
inductive Client.Fate where
  | answered (answer : Answer)
  | gone
  deriving DecidableEq

open HintLine.Client (Fate)

/-- The response that tells what befell a request. It has the buffer, the client and the number of the request, an
error just if the answer was one, and the hints that were answered, if any were. -/
inductive Client.Request.Reports (r : Request) : Fate → Response → Prop
  | hints (result : Option (List Inlay)) :
    Reports r (.answered (.hints result)) ⟨r.buffer, r.client, some r.number, none, result⟩
  | refused (e : RpcError) :
    Reports r (.answered (.refused e)) ⟨r.buffer, r.client, some r.number, some e.message, none⟩
  | gone : Reports r .gone ⟨r.buffer, r.client, some r.number, none, none⟩

namespace Client.Request.Reports

variable {r : Request} {fate : Fate} {response : Response}

theorem request (reports : r.Reports fate response) : response.request = some (r.number : Int) := by
  cases reports <;> rfl

private theorem exists_response (r : Request) {answer : Answer} (proper : answer.Proper) :
    ∃ response, r.response answer = .ok response := by
  cases answer with
  | hints | refused => exact ⟨_, rfl⟩
  | broken e => exact (proper e rfl).elim

theorem of_response {answer : Answer} (made : r.response answer = .ok response) :
    r.Reports (.answered answer) response := by
  cases answer with
  | hints result =>
    obtain rfl := Except.ok.inj made
    exact .hints result
  | refused e =>
    obtain rfl := Except.ok.inj made
    exact .refused e
  | broken e => cases made

end Client.Request.Reports

namespace Session

/-- What a handler may do: ask for more requests. Clients may come and go on its account, but it leaves the requests
that there are to themselves, and calls no handler. -/
structure Modest (handle : Response → Act Session Unit) : Prop where
  asks : ∀ response (s : Session), ∃ asks, s.Asks (handle response s).state asks
  silent : ∀ response s, (handle response s).trace.handled = []

private theorem dispatchTo_registered {handlers : Handlers} {handle : Response → Act Session Unit}
    (registered : handlers.get? hintMethod = some handle) (response : Response) (s : Session) :
    dispatchTo handlers hintMethod response s =
      ⟨(handle response s).outcome, (handle response s).state,
        .handled hintMethod response :: (handle response s).trace⟩ := by
  unfold dispatchTo
  rw [registered]
  rfl

theorem modest_collect : Modest collect := by
  refine ⟨fun response s => ⟨[], s.registry.clients, s.registry.attached, ?_⟩, fun response s => ?_⟩
  · rw [Registry.schedule_nil]
    rfl
  · exact Trace.handled_eq_nil (tells_collect response s) (by decide)

/-- What is recorded of some turns: the requests that were asked for, by buffer and client; what befell requests; which
of them are finished; and the handlers that were called, by their methods, with the responses that they got. -/
structure Record where
  asked : List (Ident × Ident)
  befallen : List (Request × Fate)
  finished : List (Request × Fate)
  handed : List (String × Response)
  deriving DecidableEq

namespace Record

def empty : Record := ⟨[], [], [], []⟩

def append (first second : Record) : Record where
  asked := first.asked ++ second.asked
  befallen := first.befallen ++ second.befallen
  finished := first.finished ++ second.finished
  handed := first.handed ++ second.handed

theorem append_empty (h : Record) : h.append empty = h := by simp [append, empty]

theorem append_assoc (g h k : Record) : (g.append h).append k = g.append (h.append k) := by simp [append]

/-- The requests that were asked for, numbered in that order. -/
def made (h : Record) : List Request := numberedFrom 1 h.asked

/-- The handler for hints was called with a response to a request that tells what befell it. -/
def Delivers (h : Record) (r : Request) : Prop :=
  ∃ fate response, (r, fate) ∈ h.befallen ∧ r.Reports fate response ∧ (hintMethod, response) ∈ h.handed

end Record

/-- What befalls a request that is to be sent, if its buffer or its client is gone. -/
def lapsed (s : Session) (buffer client : Ident) : List (Request × Fate) :=
  if s.canSend buffer client then [] else [(s.nextRequest buffer client, .gone)]

namespace Turn

/-- A turn in which jobs are done with some handlers. -/
def actWith (handlers : Handlers) : Turn → Act Session Unit
  | step .advance => advanceTo (dispatchTo handlers hintMethod)
  | turn => turn.act

def afterWith (handlers : Handlers) (s : Session) (turn : Turn) : Session := (turn.actWith handlers s).state

/-- The requests that a turn asks for; those that a handler asks for are due behind all others. -/
def asksWith (handlers : Handlers) (s : Session) : Turn → List (Ident × Ident)
  | step .advance =>
    (((step .advance).afterWith handlers s).registry.due.drop s.registry.due.tail.length).filterMap Job.sent?
  | turn => turn.asks s

def befalls (s : Session) : Turn → List (Request × Fate)
  | step (.respond index answer) => s.registry.inFlight[index]?.toList.map fun r => (r, .answered answer)
  | step .advance =>
    match s.registry.due with
    | .send buffer client :: _ => s.lapsed buffer client
    | _ => []
  | _ => []

/-- The request that is over once the first job is done, if one is. -/
def finishes (s : Session) : Turn → List (Request × Fate)
  | step .advance =>
    match s.registry.due with
    | .send buffer client :: _ => s.lapsed buffer client
    | .deliver r answer :: _ => [(r, .answered answer)]
    | [] => []
  | _ => []

/-- What is recorded of a turn. -/
def record (handlers : Handlers) (s : Session) (turn : Turn) : Record where
  asked := turn.asksWith handlers s
  befallen := turn.befalls s
  finished := turn.finishes s
  handed := (turn.actWith handlers s).trace.handled

/-- In a turn the handler of a method is called with a response. The call is made in the session as it was but for the
registry; from there on the turn goes as the handler does, and then the request that is responded to is over. -/
def Calls (handlers : Handlers) (s : Session) (turn : Turn) (call : String × Response) : Prop :=
  ∃ handle registry before, ∃ r : Request,
    handlers.get? call.1 = some handle ∧ call.2.request = some (r.number : Int) ∧
      let handled := handle call.2 { s with registry }
      turn.actWith handlers s =
        ⟨handled.outcome, handled.state.discarding r, before ++ .handled call.1 call.2 :: handled.trace⟩

/-- A turn in which no call ends but with an answer, and no response comes from elsewhere. -/
def Proper : Turn → Prop
  | step (.respond _ answer) => answer.Proper
  | step (.dispatch _ _) => False
  | _ => True

end Turn

/-- The session after some turns, with handlers for the responses. -/
def playWith (handlers : Handlers) (s : Session) (turns : List Turn) : Session :=
  turns.foldl (Turn.afterWith handlers) s

/-- What is recorded of some turns, one after the other. -/
def history (handlers : Handlers) : Session → List Turn → Record
  | _, [] => .empty
  | s, turn :: turns => (turn.record handlers s).append (history handlers (turn.afterWith handlers s) turns)

/-- The requests whose tasks are pending. -/
def outstanding (s : Session) : List Request := s.registry.tasks.map Task.request

section History

variable (handlers : Handlers)

theorem history_append (s : Session) (first second : List Turn) :
    s.history handlers (first ++ second) =
      (s.history handlers first).append ((s.playWith handlers first).history handlers second) := by
  induction first generalizing s with
  | nil => rfl
  | cons turn first ih =>
    rw [List.cons_append, history, ih, history, Record.append_assoc]
    rfl

end History

theorem actWith_handlers (turn : Turn) : turn.actWith handlers = turn.act := by
  unfold Turn.actWith
  split <;> rfl

theorem playWith_handlers (s : Session) (turns : List Turn) : s.playWith handlers turns = s.play turns := by
  have same : Turn.afterWith handlers = Turn.after := by
    funext s turn
    unfold Turn.afterWith Turn.after
    rw [actWith_handlers]
  unfold playWith play
  rw [same]

/-- What a turn does to requests. Some are asked for, or the answer of one comes, or the first job is done: a request is
sent, or it is finished for want of its buffer or its client, or by its answer. -/
inductive Turned (s t : Session) : Record → Prop
  | asked {asks : List (Ident × Ident)} : s.Asks t asks → Turned s t ⟨asks, [], [], []⟩
  | answered {index : Nat} {r : Request} {answer : Answer} : answer.Proper → s.registry.inFlight[index]? = some r →
    t = s.answering index r answer → Turned s t ⟨[], [(r, .answered answer)], [], []⟩
  | sent {buffer client : Ident} {due : List Job} : s.registry.due = .send buffer client :: due →
    t = (s.withDue due).numbering.launching (s.nextRequest buffer client) → Turned s t .empty
  | gone {buffer client : Ident} {due : List Job} {asks : List (Ident × Ident)} :
    s.registry.due = .send buffer client :: due →
    ((s.withDue due).numbering.discarding (s.nextRequest buffer client)).Asks t asks →
    Turned s t
      ⟨asks, [(s.nextRequest buffer client, .gone)], [(s.nextRequest buffer client, .gone)],
        [(hintMethod, (s.nextRequest buffer client).unanswered)]⟩
  | delivered {r : Request} {answer : Answer} {response : Response} {due : List Job} {asks : List (Ident × Ident)} :
    s.registry.due = .deliver r answer :: due → r.response answer = .ok response →
    ((s.withDue due).discarding r).Asks t asks →
    Turned s t ⟨asks, [], [(r, .answered answer)], [(hintMethod, response)]⟩

/-- All answers that are to be delivered are answers as servers give them. -/
def AllProper (s : Session) : Prop := ∀ r answer, Job.deliver r answer ∈ s.registry.due → answer.Proper

section Turned

variable {handlers : Handlers} {handle : Response → Act Session Unit}
  (registered : handlers.get? hintMethod = some handle) (modest : Modest handle)

private theorem asksWith_advance {s : Session} {job : Job} {due : List Job} {asks : List (Ident × Ident)}
    (jobs : s.registry.due = job :: due)
    (later : ((Turn.step .advance).afterWith handlers s).registry.due = due ++ asks.map sending) :
    (Turn.step .advance).asksWith handlers s = asks := by
  unfold Turn.asksWith
  dsimp only
  rw [later, jobs, List.tail_cons, List.drop_left, List.filterMap_map]
  exact List.filterMap_some

private theorem handled_actWith {turn : Turn} (proper : turn.Proper) (other : turn ≠ .step .advance) (s : Session) :
    (turn.actWith handlers s).trace.handled = [] := by
  cases turn with
  | reform => rfl
  | step taken =>
    cases taken with
    | deed d => exact Trace.handled_eq_nil (tells_deed d s) (by decide)
    | register | unregister => rfl
    | start client server command root =>
      exact Trace.handled_eq_nil (tells_start client server command root s) (by decide)
    | stop => exact Trace.handled_eq_nil (tells_stop s) (by decide)
    | advance => exact (other rfl).elim
    | respond index answer =>
      have tells : (Step.respond index answer).act.Tells (Effect.Through []) :=
        (tells_respond index answer).bind fun _ => Act.tells_pure _
      exact Trace.handled_eq_nil (tells s) (by decide)
    | dispatch => exact proper.elim

private theorem turned_asked {s : Session} {turn : Turn} (proper : turn.Proper) (other : turn ≠ .step .advance)
    (later : s.Asks (turn.afterWith handlers s) (turn.asksWith handlers s)) (nothing : turn.befalls s = [])
    (none : turn.finishes s = []) : Turned s (turn.afterWith handlers s) (turn.record handlers s) := by
  unfold Turn.record
  rw [nothing, none, handled_actWith proper other s]
  exact .asked later

include registered modest

private theorem advance_gone {s : Session} {buffer client : Ident} {due : List Job}
    (jobs : s.registry.due = .send buffer client :: due) (unable : s.canSend buffer client = false) :
    let r := s.nextRequest buffer client
    let handled := handle r.unanswered (s.withDue due).numbering
    (∃ record, (Turn.step .advance).actWith handlers s =
      ⟨handled.outcome, handled.state.discarding r,
        [.log record] ++ .handled hintMethod r.unanswered :: handled.trace⟩) ∧
      ((Turn.step .advance).actWith handlers s).trace.handled = [(hintMethod, r.unanswered)] := by
  obtain ⟨record, gone⟩ := performTo_gone (dispatchTo handlers hintMethod) (s := s.withDue due) unable
  rw [dispatchTo_registered registered] at gone
  have ran := (advanceTo_cons (dispatchTo handlers hintMethod) jobs).trans gone
  refine ⟨⟨record, ran⟩, ?_⟩
  rw [Turn.actWith, ran]
  exact congrArg ((hintMethod, (s.nextRequest buffer client).unanswered) :: ·) (modest.silent _ _)

private theorem advance_delivered {s : Session} {r : Request} {answer : Answer} {due : List Job}
    {response : Response} (jobs : s.registry.due = .deliver r answer :: due)
    (made : r.response answer = .ok response) :
    let handled := handle response (s.withDue due)
    (Turn.step .advance).actWith handlers s =
        ⟨handled.outcome, handled.state.discarding r, .handled hintMethod response :: handled.trace⟩ ∧
      ((Turn.step .advance).actWith handlers s).trace.handled = [(hintMethod, response)] := by
  have ran := (advanceTo_cons _ jobs).trans (performTo_deliver (dispatchTo handlers hintMethod) made (s.withDue due))
  rw [dispatchTo_registered registered] at ran
  refine ⟨ran, ?_⟩
  rw [Turn.actWith, ran]
  exact congrArg ((hintMethod, response) :: ·) (modest.silent _ _)

private theorem turned_send {s : Session} {buffer client : Ident} {due : List Job}
    (jobs : s.registry.due = .send buffer client :: due) :
    Turned s ((Turn.step .advance).afterWith handlers s) ((Turn.step .advance).record handlers s) := by
  have befalls : (Turn.step .advance).befalls s = s.lapsed buffer client := by
    unfold Turn.befalls
    rw [jobs]
  have finishes : (Turn.step .advance).finishes s = s.lapsed buffer client := by
    unfold Turn.finishes
    rw [jobs]
  unfold Turn.record
  rw [befalls, finishes]
  unfold lapsed
  cases able : s.canSend buffer client with
  | true =>
    obtain ⟨b, -, sent⟩ := performTo_sent (dispatchTo handlers hintMethod) (s := s.withDue due) able
    have ran := (advanceTo_cons (dispatchTo handlers hintMethod) jobs).trans sent
    have left : (Turn.step .advance).afterWith handlers s =
        (s.withDue due).numbering.launching (s.nextRequest buffer client) := congrArg Run.state ran
    have handed : ((Turn.step .advance).actWith handlers s).trace.handled = [] :=
      congrArg (fun r : Run Session Unit => r.trace.handled) ran
    have asks : (Turn.step .advance).asksWith handlers s = [] := by
      refine asksWith_advance jobs ?_
      rw [left]
      exact (List.append_nil due).symm
    rw [asks, handed, if_pos rfl]
    exact .sent jobs left
  | false =>
    obtain ⟨⟨record, ran⟩, handed⟩ := advance_gone registered modest jobs able
    let request := s.nextRequest buffer client
    obtain ⟨asks, later⟩ := modest.asks request.unanswered (s.withDue due).numbering
    have left : (Turn.step .advance).afterWith handlers s =
        (handle request.unanswered (s.withDue due).numbering).state.discarding request := congrArg Run.state ran
    have own := later.discarding request
    rw [← left] at own
    rw [asksWith_advance jobs own.due, handed, if_neg Bool.false_ne_true]
    exact .gone jobs own

private theorem turned_deliver {s : Session} {r : Request} {answer : Answer} {due : List Job}
    (jobs : s.registry.due = .deliver r answer :: due) (proper : answer.Proper) :
    Turned s ((Turn.step .advance).afterWith handlers s) ((Turn.step .advance).record handlers s) := by
  obtain ⟨response, made⟩ := Client.Request.Reports.exists_response r proper
  obtain ⟨ran, handed⟩ := advance_delivered registered modest jobs made
  obtain ⟨asks, later⟩ := modest.asks response (s.withDue due)
  have own := later.discarding r
  have left : (Turn.step .advance).afterWith handlers s = (handle response (s.withDue due)).state.discarding r :=
    congrArg Run.state ran
  have befalls : (Turn.step .advance).befalls s = [] := by
    unfold Turn.befalls
    rw [jobs]
  have finishes : (Turn.step .advance).finishes s = [(r, .answered answer)] := by
    unfold Turn.finishes
    rw [jobs]
  rw [← left] at own
  unfold Turn.record
  rw [asksWith_advance jobs own.due, befalls, finishes, handed]
  exact .delivered jobs made own

private theorem turned_advance {s : Session} (proper : s.AllProper) :
    Turned s ((Turn.step .advance).afterWith handlers s) ((Turn.step .advance).record handlers s) := by
  cases jobs : s.registry.due with
  | nil =>
    have ran : (Turn.step .advance).actWith handlers s = ⟨.ok (), s, []⟩ := advanceTo_nil _ jobs
    have left : (Turn.step .advance).afterWith handlers s = s := congrArg Run.state ran
    unfold Turn.record Turn.asksWith Turn.befalls Turn.finishes
    dsimp only
    rw [left, ran, jobs]
    exact .asked (.of_beside (Beside.refl s))
  | cons job due =>
    cases job with
    | send buffer client => exact turned_send registered modest jobs
    | deliver r answer =>
      have first : Job.deliver r answer ∈ s.registry.due := jobs ▸ List.mem_cons_self
      exact turned_deliver registered modest jobs (proper r answer first)

/-- Each turn asks for requests, takes the answer of one in, or does the first job that is due. -/
theorem turned {s : Session} (whole : s.AllProper) {turn : Turn} (proper : turn.Proper) :
    Turned s (turn.afterWith handlers s) (turn.record handlers s) := by
  cases turn with
  | reform client didOpen shutdown =>
    refine turned_asked proper nofun ?_ rfl rfl
    have reformed : ((Turn.reform client didOpen shutdown).afterWith handlers s).registry =
        s.registry.reform client didOpen shutdown := rfl
    have none : (Turn.reform client didOpen shutdown).asksWith handlers s = [] := rfl
    unfold Registry.reform at reformed
    rw [none]
    split at reformed
    · exact ⟨_, _, by rw [reformed, Registry.schedule_nil]; rfl⟩
    · exact ⟨_, _, by rw [reformed, Registry.schedule_nil]⟩
  | step taken =>
    cases taken with
    | deed d =>
      refine turned_asked proper nofun ?_ rfl rfl
      have left : (Turn.step (.deed d)).afterWith handlers s = d.effect s := d.state_act s
      obtain ⟨attached, registry⟩ := registry_effect s d
      rw [left]
      exact ⟨_, attached, registry⟩
    | register client c => exact turned_asked proper nofun (.of_beside (moves_register client c s)) rfl rfl
    | unregister client => exact turned_asked proper nofun (.of_beside (moves_unregister client s)) rfl rfl
    | start client server command root =>
      exact turned_asked proper nofun (.of_beside (moves_start client server command root s)) rfl rfl
    | stop => exact turned_asked proper nofun (.of_beside (moves_stop s)) rfl rfl
    | advance => exact turned_advance registered modest whole
    | respond index answer =>
      have left : (Turn.step (.respond index answer)).afterWith handlers s = _ := after_respond index answer s
      cases found : s.registry.inFlight[index]? with
      | none =>
        rw [found] at left
        have befalls : (Turn.step (.respond index answer)).befalls s = [] := by
          unfold Turn.befalls
          dsimp only
          rw [found]
          rfl
        refine turned_asked proper nofun ?_ befalls rfl
        rw [left]
        exact .of_beside (Beside.refl s)
      | some r =>
        rw [found] at left
        have befalls : (Turn.step (.respond index answer)).befalls s = [(r, .answered answer)] := by
          unfold Turn.befalls
          dsimp only
          rw [found]
          rfl
        unfold Turn.record
        rw [befalls, handled_actWith proper nofun s]
        exact .answered proper found left
    | dispatch method r => exact proper.elim

theorem calls {s : Session} (whole : s.AllProper) {turn : Turn} (proper : turn.Proper)
    {call : String × Response} (called : call ∈ (turn.actWith handlers s).trace.handled) :
    turn.Calls handlers s call := by
  by_cases advances : turn = .step .advance
  · subst advances
    cases jobs : s.registry.due with
    | nil =>
      have ran : (Turn.step .advance).actWith handlers s = ⟨.ok (), s, []⟩ := advanceTo_nil _ jobs
      rw [ran] at called
      cases called
    | cons job due =>
      cases job with
      | send buffer client =>
        cases able : s.canSend buffer client with
        | true =>
          obtain ⟨b, -, sent⟩ := performTo_sent (dispatchTo handlers hintMethod) (s := s.withDue due) able
          have ran := (advanceTo_cons (dispatchTo handlers hintMethod) jobs).trans sent
          rw [Turn.actWith, ran] at called
          cases called
        | false =>
          obtain ⟨⟨record, ran⟩, handed⟩ := advance_gone registered modest jobs able
          rw [handed] at called
          obtain rfl := List.mem_singleton.1 called
          exact ⟨handle, _, _, _, registered, rfl, ran⟩
      | deliver r answer =>
        have first : Job.deliver r answer ∈ s.registry.due := jobs ▸ List.mem_cons_self
        obtain ⟨response, made⟩ := Client.Request.Reports.exists_response r (whole r answer first)
        obtain ⟨ran, handed⟩ := advance_delivered registered modest jobs made
        rw [handed] at called
        obtain rfl := List.mem_singleton.1 called
        exact ⟨handle, _, [], r, registered, (Client.Request.Reports.of_response made).request, ran⟩
  · rw [handled_actWith proper advances s] at called
    cases called

end Turned

end Session

end HintLine
