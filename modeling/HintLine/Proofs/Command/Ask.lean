import HintLine.Proofs.Command.Conduct
import HintLine.Proofs.Session.Turns
import HintLine.Proofs.Session.Waiting

/-!
Asking a server for the hints of a file. A client that gives hints is sent one request, whether hints are asked for by
themselves or by hand, and once its answer was waited for, the bucket of the file is that of the answer.
-/

set_option autoImplicit false

namespace HintLine

open HintLine.Client (Job Registry Server)

/-- The hints that a server gives when it is asked: none if it says that it gives none, or fails. -/
def Client.Server.inlays (server : Server) : List Inlay :=
  match server.provides, server.answer with
  | true, .hints (some inlays) => inlays
  | _, _ => []

private theorem Bucket.ofInlays_nil : ofInlays [] = Table.empty := by
  rw [ofInlays, byCharacter, List.mergeSort_nil]
  rfl

namespace Session

/-- A session in which the current buffer has a bucket and hints are displayed in the standard way. -/
structure Showing (s : Session) (buffer : Ident) (bucket : Bucket) : Prop where
  named : buffer ≠ .absent
  current : s.editor.current = buffer
  bucket : (s.collector.bucket? buffer).getD Table.empty = bucket
  standard : s.settings.display = none
  styles : s.area.styles = .standard

end Session

namespace Command

open Session (Showing Step)

/-- A session in which a file is open and a server is up, and nothing has been asked yet. -/
structure Attending (s : Session) (server : Server) (buffer : Ident) : Prop where
  named : buffer ≠ .absent
  isOpen : s.editor.isOpen buffer = true
  current : s.editor.current = buffer
  client : s.registry.clients.get? clientId = some server.connection
  alone : s.registry.attachedTo buffer = []
  due : s.registry.due = []
  inFlight : s.registry.inFlight = []
  tasks : s.registry.tasks = []
  nothing : s.collector.kept buffer = .nothing

/-- Such a session, in which hints are displayed in the standard way. -/
structure Serving (s : Session) (server : Server) (buffer : Ident) : Prop extends Attending s server buffer where
  standard : s.settings.display = none
  styles : s.area.styles = .standard

/-- A session that is another one once the buffer has got a bucket: neither settings nor what is shown has changed. -/
structure Answered (s t : Session) (buffer : Ident) (bucket : Bucket) : Prop where
  bucket : (t.collector.bucket? buffer).getD Table.empty = bucket
  editor : t.editor = s.editor
  settings : t.settings = s.settings
  area : t.area = s.area

private theorem Answered.discarding {s t : Session} {buffer : Ident} {bucket : Bucket}
    (answered : Answered s t buffer bucket) (r : Client.Request) : Answered s (t.discarding r) buffer bucket :=
  ⟨answered.bucket, answered.editor, answered.settings, answered.area⟩

variable {s : Session} {server : Server} {buffer : Ident}

/-- The session in which hints were asked for and nothing has been sent. -/
def asked (s : Session) (buffer : Ident) : Session :=
  { s with registry := (s.registry.link buffer clientId).enable buffer }

/-- Wishing for hints: they are asked for by themselves or by hand. -/
def wish (buffer : Ident) : Act Session Unit := do
  Session.attached buffer clientId
  if !(← Act.get).settings.autoEnable then Session.enable buffer

theorem ask_eq (server : Server) (buffer : Ident) :
    ask server buffer =
      Session.attach buffer clientId >>= fun _ => wish buffer >>= fun _ => await server.answer := by
  unfold ask wish
  simp only [bind_assoc]
  refine congrArg _ (funext fun _ => congrArg _ (funext fun _ => congrArg _ (funext fun s => ?_)))
  split
  · rfl
  · rw [pure_bind]

namespace Attending

variable (attending : Attending s server buffer)

include attending

private theorem supports_linked : (s.registry.link buffer clientId).supports clientId = server.provides := by
  have client : (s.registry.link buffer clientId).clients.get? clientId = some server.connection := attending.client
  unfold Registry.supports
  rw [client]
  rfl

private theorem asked_eq :
    asked s buffer =
      { s with
        registry :=
          (s.registry.link buffer clientId).schedule (if server.provides then [(buffer, clientId)] else []) } := by
  have asks : (((s.registry.link buffer clientId).attachedTo buffer).filter
      (s.registry.link buffer clientId).supports).map (fun client => (buffer, client)) =
        if server.provides then [(buffer, clientId)] else [] := by
    rw [Session.attachedTo_link, if_pos rfl, attending.alone, List.nil_append, List.filter_cons, List.filter_nil,
      attending.supports_linked]
    split <;> rfl
  unfold asked Registry.enable
  rw [asks]

theorem due_asked :
    (asked s buffer).registry.due = if server.provides then [.send buffer clientId] else [] := by
  rw [attending.asked_eq]
  show s.registry.due ++ _ = _
  rw [attending.due]
  split <;> rfl

theorem pending_asked : (asked s buffer).registry.pending = if server.provides then 1 else 0 := by
  rw [attending.asked_eq]
  show (s.registry.tasks ++ _).length = _
  rw [attending.tasks]
  split <;> rfl

private theorem asked_of_silent (silent : server.provides = false) :
    asked s buffer = { s with registry := s.registry.link buffer clientId } := by
  rw [attending.asked_eq, silent, if_neg Bool.false_ne_true, Registry.schedule_nil]

theorem wish_linked :
    ∃ t : Trace, (∀ e ∈ t, ∃ r, e = .log r) ∧
      wish buffer { s with registry := s.registry.link buffer clientId } = ⟨.ok (), asked s buffer, t⟩ := by
  let linked : Session := { s with registry := s.registry.link buffer clientId }
  have asks : linked.asksItself clientId = (s.settings.autoEnable && server.provides) := by
    have named : clientId ≠ .absent := by decide
    unfold Session.asksItself
    rw [decide_eq_true named, Bool.and_true]
    exact congrArg _ attending.supports_linked
  obtain ⟨t, logs, ran⟩ := Session.attached_apply buffer clientId linked
  rw [asks] at ran
  refine ⟨t, logs, ?_⟩
  change wish buffer linked = _
  unfold wish
  rw [Act.bind_apply_ok ran]
  -- Either way the same is due; where nothing happens by itself, hints are asked for by hand.
  cases auto : s.settings.autoEnable with
  | true =>
    have reached : (if (true && server.provides) = true then linked.enabling buffer else linked) = asked s buffer := by
      cases gives : server.provides with
      | true => rfl
      | false => exact (attending.asked_of_silent gives).symm
    have wanted : (asked s buffer).settings.autoEnable = true := auto
    rw [reached, Act.bind_apply_ok (Act.get_apply _), wanted]
    simp
  | false =>
    have wanted : linked.settings.autoEnable = false := auto
    rw [Bool.false_and, if_neg Bool.false_ne_true, Act.bind_apply_ok (Act.get_apply _), wanted]
    exact congrArg (fun u => (⟨.ok (), asked s buffer, u⟩ : Run Session Unit)) (List.append_nil t)

private theorem state_ask (done : (ask server buffer s).outcome = .ok ()) :
    (ask server buffer s).state = (await server.answer (asked s buffer)).state := by
  rw [ask_eq] at done ⊢
  obtain ⟨u, attaches, rest, ran⟩ := Act.bind_succeeded done
  have links : (Session.attach buffer clientId s).state = { s with registry := s.registry.link buffer clientId } := by
    rw [Session.state_attach, if_pos ((Session.outcome_attach buffer clientId s).1 attaches)]
  obtain ⟨t, -, wished⟩ := attending.wish_linked
  rw [ran, links, Act.bind_apply_ok wished]

theorem tasks_silent (silent : server.provides = false) : (asked s buffer).registry.tasks = [] := by
  have none := attending.pending_asked
  rw [silent, if_neg Bool.false_ne_true] at none
  exact List.eq_nil_of_length_eq_zero none

theorem tasks_giving (gives : server.provides = true) : (asked s buffer).registry.tasks ≠ [] := by
  have one := attending.pending_asked
  rw [gives, if_pos rfl] at one
  intro none
  have zero : (asked s buffer).registry.pending = 0 := congrArg List.length none
  omega

private theorem await_silent (silent : server.provides = false) :
    ∃ registry, (await server.answer (asked s buffer)).state = { s with registry } := by
  refine ⟨(asked s buffer).registry, ?_⟩
  show (Session.wait _ (asked s buffer)).state = _
  rw [Session.wait_idle _ (attending.tasks_silent silent)]
  rfl

theorem canSend_asked : ((asked s buffer).withDue []).canSend buffer clientId = true := by
  have isThere : s.registry.clients.contains clientId = true := by
    unfold Table.contains
    rw [attending.client]
    rfl
  show (s.editor.isOpen buffer && s.registry.clients.contains clientId) = true
  rw [attending.isOpen, isThere]
  rfl

theorem told_asked (gives : server.provides = true) :
    ∃ (registry : Registry) (r : Client.Request), r.buffer = buffer ∧ r.client = clientId ∧
      registry.supports clientId = true ∧ registry.due = [.deliver r server.answer] ∧
      (asked s buffer).told [server.answer] = { s with registry } := by
  let t := asked s buffer
  have due : t.registry.due = [.send buffer clientId] := by
    show (asked s buffer).registry.due = _
    rw [attending.due_asked, gives]
    rfl
  have inFlight : t.registry.inFlight = [] := attending.inFlight
  let r : Client.Request := t.nextRequest buffer clientId
  have sent : t.run (List.replicate t.registry.due.length .advance) = (t.withDue []).numbering.launching r := by
    rw [due]
    show Step.advance.after t = _
    rw [Session.after_advance, due]
    dsimp only
    rw [Session.doing, if_pos attending.canSend_asked]
    rfl
  let registry : Registry := ((t.withDue []).numbering.launching r).registry.answeredAll [server.answer]
  refine ⟨registry, r, rfl, rfl, attending.supports_linked.trans gives, ?_, ?_⟩
  · show [] ++ Registry.deliveries (t.registry.inFlight ++ [r]) [server.answer] = _
    rw [inFlight]
    rfl
  · unfold Session.told
    dsimp only
    rw [sent]
    rfl

private theorem await_giving (gives : server.provides = true) :
    ∃ (registry : Registry) (r : Client.Request), r.buffer = buffer ∧ r.client = clientId ∧
      registry.supports clientId = true ∧
      (await server.answer (asked s buffer)).state =
        Session.doing { s with registry } (.deliver r server.answer) := by
  obtain ⟨registry, r, own, asker, supports, jobs, told⟩ := attending.told_asked gives
  refine ⟨{ registry with due := [] }, r, own, asker, supports, ?_⟩
  show (Session.wait (List.replicate (asked s buffer).registry.pending server.answer) (asked s buffer)).state = _
  rw [attending.pending_asked, gives, if_pos rfl, Session.state_wait _ (attending.tasks_giving gives)]
  show ((asked s buffer).told [server.answer]).run
    (List.replicate ((asked s buffer).told [server.answer]).registry.due.length .advance) = _
  rw [told]
  dsimp only
  rw [jobs]
  show Step.advance.after _ = _
  rw [Session.after_advance]
  dsimp only
  rw [jobs]
  rfl

private theorem answered_taking (registry : Registry) {response : Response} (own : response.buffer = buffer) :
    let t : Session := { s with registry }
    Answered s (t.taking response) buffer (Collector.standsFor t.surroundings response) := by
  intro t
  have nothing : t.collector.kept response.buffer = .nothing := own ▸ attending.nothing
  have inTime : t.collector.isOutdated response = false := by
    have newest : t.collector.applied.get? response.buffer = none := congrArg Collector.Kept.newest nothing
    unfold Collector.isOutdated
    rw [newest]
    cases response.request <;> rfl
  refine ⟨?_, rfl, rfl, rfl⟩
  rw [← own]
  rcases Session.collector_taking (own ▸ attending.named) (own ▸ attending.isOpen) inTime with stored | ⟨failed, same⟩
  · rw [stored]
    exact congrArg (Option.getD · Table.empty) (Table.get?_insert_self _ _ _)
  · have empty : Collector.standsFor t.surroundings response = Table.empty := by
      unfold Collector.standsFor
      cases error : response.error with
      | none => exact (failed error).elim
      | some message => rfl
    rw [same, empty]
    exact congrArg (Option.getD · Table.empty) (congrArg Collector.Kept.bucket nothing)

private theorem answered_await :
    Answered s (await server.answer (asked s buffer)).state buffer (Bucket.ofInlays server.inlays) := by
  have empty : s.collector.bucket? buffer = none := congrArg Collector.Kept.bucket attending.nothing
  have unchanged (registry : Registry) (none : server.inlays = []) :
      Answered s { s with registry } buffer (Bucket.ofInlays server.inlays) := by
    rw [none, Bucket.ofInlays_nil]
    exact ⟨congrArg (Option.getD · Table.empty) empty, rfl, rfl, rfl⟩
  cases gives : server.provides with
  | false =>
    obtain ⟨registry, left⟩ := attending.await_silent gives
    rw [left]
    refine unchanged registry ?_
    unfold Server.inlays
    rw [gives]
  | true =>
    obtain ⟨registry, r, own, asker, supports, left⟩ := attending.await_giving gives
    rw [left, Session.doing]
    have taken (response : Response) (same : response.buffer = buffer) :=
      (attending.answered_taking registry same).discarding r
    cases answer : server.answer with
    | broken e =>
      refine Answered.discarding (t := { s with registry }) (unchanged registry ?_) r
      unfold Server.inlays
      rw [gives, answer]
    | refused e =>
      have given : server.inlays = [] := by
        unfold Server.inlays
        rw [gives, answer]
      rw [given, Bucket.ofInlays_nil]
      exact taken ⟨r.buffer, r.client, some r.number, some e.message, none⟩ own
    | hints result =>
      have shown := taken ⟨r.buffer, r.client, some r.number, none, result⟩ own
      cases result with
      | none =>
        have given : server.inlays = [] := by
          unfold Server.inlays
          rw [gives, answer]
        rw [given, Bucket.ofInlays_nil]
        exact shown
      | some inlays =>
        have given : server.inlays = inlays := by
          unfold Server.inlays
          rw [gives, answer]
        have stands : Collector.standsFor (Session.surroundings { s with registry })
            ⟨r.buffer, r.client, some r.number, none, some inlays⟩ = Bucket.ofInlays inlays := by
          have named : r.client ≠ .absent := by
            rw [asker]
            decide
          exact if_pos ⟨named, asker ▸ supports⟩
        rw [given, ← stands]
        exact shown

theorem answered_ask (done : (ask server buffer s).outcome = .ok ()) :
    Answered s (ask server buffer s).state buffer (Bucket.ofInlays server.inlays) := by
  rw [attending.state_ask done]
  exact attending.answered_await

end Attending

theorem attending_joined (settings : Settings Plugin.Callable) (before after : Files) (area : Terminal.EchoArea)
    (parses : Bool) (inv : Invocation) (text : String) (server : Server) :
    Attending (joined (opening (.new settings before area parses) inv text) after server) server (.number 1) :=
  ⟨nofun, rfl, rfl, rfl, rfl, rfl, rfl, rfl, rfl⟩

theorem Serving.showing_ask (serving : Serving s server buffer) (done : (ask server buffer s).outcome = .ok ()) :
    (ask server buffer s).state.Showing buffer (Bucket.ofInlays server.inlays) := by
  obtain ⟨bucket, editor, settings, area⟩ := serving.toAttending.answered_ask done
  refine ⟨serving.named, ?_, bucket, ?_, ?_⟩
  · rw [editor, serving.current]
  · rw [settings, serving.standard]
  · rw [area, serving.styles]

end Command

end HintLine
