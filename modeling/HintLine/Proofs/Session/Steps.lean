import HintLine.Proofs.Session.Hold

/-!
The steps that a session takes. A deed is what the host does to buffers and hints; besides there are the clients
that come and go, the jobs that are done, and the answers and responses that arrive. A step leaves a session
whether or not its action ends in a fault.
-/

set_option autoImplicit false

namespace HintLine.Session

open HintLine.Client (Answer Connection Job Registry Request Server)

/-- What a host does, apart from its clients. -/
inductive Deed where
  | openBuffer (path : Path) (text languageId : String)
  | closeBuffer (buffer : Ident)
  | setCurrent (buffer : Ident)
  | setCursor (cursor : Cursor)
  | parse (buffer : Ident) (text : String)
  | attach (buffer client : Ident)
  | attached (buffer client : Ident)
  | enable (buffer : Ident)
  | hold
  | silence

def Deed.act : Deed → Act Session Unit
  | openBuffer path text languageId => do let _ ← Session.openBuffer path text languageId
  | closeBuffer buffer => Session.closeBuffer buffer
  | setCurrent buffer => onEditor (Editor.setCurrent buffer)
  | setCursor cursor => onEditor (Editor.setCursor cursor)
  | parse buffer text => Session.parse buffer text
  | attach buffer client => Session.attach buffer client
  | attached buffer client => Session.attached buffer client
  | enable buffer => Session.enable buffer
  | hold => Session.hold
  | silence => Session.silence

/-- What happens to a session. -/
inductive Step where
  | deed (d : Deed)
  | register (client : Ident) (c : Connection)
  | unregister (client : Ident)
  | start (client : Ident) (server : Server) (command : String) (root : Path)
  | stop
  | advance
  | respond (index : Nat) (answer : Answer)
  | dispatch (method : String) (r : Response)

def Step.act : Step → Act Session Unit
  | deed d => d.act
  | register client c => Session.register client c
  | unregister client => Session.unregister client
  | start client server command root => Session.start client server command root
  | stop => Session.stop
  | advance => Session.advance
  | respond index answer => do let _ ← Session.respond index answer
  | dispatch method r => Session.dispatch method r

def Step.after (s : Session) (step : Step) : Session := (step.act s).state

def run (s : Session) (steps : List Step) : Session := steps.foldl Step.after s

theorem run_append (s : Session) (first second : List Step) : s.run (first ++ second) = (s.run first).run second :=
  List.foldl_append

theorem run_concat (s : Session) (steps : List Step) (step : Step) :
    s.run (steps ++ [step]) = step.after (s.run steps) := by
  rw [run_append]
  rfl

/-- The address of a file, as the session sees it. -/
def uriOf (s : Session) (path : Path) : String := (path.absolute s.files.cwd).uri

/-- The session that a deed leaves. -/
def Deed.effect (s : Session) : Deed → Session
  | openBuffer path text languageId =>
    { s with
      editor := (s.editor.opened (s.uriOf path) text languageId).1
      forest := s.forest.map (·.grow (.number s.editor.nextId) text) }
  | closeBuffer buffer =>
    if s.wiring.forgets then
      { s with
        editor := s.editor.closed buffer
        collector := s.collector.forget buffer
        forest := s.forest.map (·.fell buffer) }
    else { s with editor := s.editor.closed buffer }
  | setCurrent buffer =>
    if s.editor.isOpen buffer then { s with editor := { s.editor with current := buffer } } else s
  | setCursor cursor => { s with editor := { s.editor with cursor } }
  | parse buffer text => { s with forest := s.forest.map (·.grow buffer text) }
  | attach buffer client =>
    if s.canAttach buffer client then { s with registry := s.registry.link buffer client } else s
  | attached buffer client => if s.asksItself client then s.enabling buffer else s
  | enable buffer => s.enabling buffer
  | hold => { s with area := { s.area with last := (Session.hold s).state.area.last } }
  | silence => { s with wiring := { s.wiring with reports := false } }

theorem openBuffer_apply (path : Path) (text languageId : String) (s : Session) :
    openBuffer path text languageId s =
      ⟨.ok (s.editor.opened (s.uriOf path) text languageId).2,
        (Deed.openBuffer path text languageId).effect s,
        [.log ⟨.trace, s!"Opened buffer {s.editor.nextId}: {s.uriOf path}"⟩]⟩ := rfl

theorem state_closeBuffer (buffer : Ident) (s : Session) :
    (closeBuffer buffer s).state = (Deed.closeBuffer buffer).effect s := by
  unfold closeBuffer Deed.effect
  rw [Act.bind_apply_ok (show onEditor (Editor.closeBuffer buffer) s = ⟨.ok (), _, _⟩ from rfl)]
  dsimp only
  rw [Act.bind_apply_ok (Act.get_apply _)]
  cases s.wiring.forgets with
  | true => rfl
  | false => rfl

private theorem state_setCurrent (buffer : Ident) (s : Session) :
    (onEditor (Editor.setCurrent buffer) s).state = (Deed.setCurrent buffer).effect s := by
  unfold onEditor Deed.effect
  rw [Act.zoom_apply]
  unfold Editor.setCurrent
  rw [Act.bind_apply_ok (Act.get_apply _)]
  dsimp only
  cases s.editor.isOpen buffer with
  | true => rfl
  | false => rfl

theorem Deed.state_act (d : Deed) (s : Session) : (d.act s).state = d.effect s := by
  cases d with
  | openBuffer path text languageId => rfl
  | closeBuffer buffer => exact state_closeBuffer buffer s
  | setCurrent buffer => exact state_setCurrent buffer s
  | setCursor cursor => rfl
  | parse buffer text => rfl
  | attach buffer client => exact state_attach buffer client s
  | attached buffer client => exact state_attached buffer client s
  | enable buffer => exact state_enable buffer s
  | hold => exact state_hold s
  | silence => rfl

/-- Two sessions, the second of which differs only in what has nothing to do with buffers, hints and requests on
their way: in clients, of which buffers may have lost some, in settings and files, and in what is shown. -/
structure Beside (s t : Session) : Prop where
  editor : t.editor = s.editor
  collector : t.collector = s.collector
  forgets : t.wiring.forgets = s.wiring.forgets
  due : t.registry.due = s.registry.due
  inFlight : t.registry.inFlight = s.registry.inFlight
  nextNumber : t.registry.nextNumber = s.registry.nextNumber
  tasks : t.registry.tasks = s.registry.tasks
  nextTicket : t.registry.nextTicket = s.registry.nextTicket
  attached : ∀ b, t.registry.attachedTo b ≠ [] → s.registry.attachedTo b ≠ []

namespace Beside

theorem refl (s : Session) : s.Beside s := ⟨rfl, rfl, rfl, rfl, rfl, rfl, rfl, rfl, fun _ => id⟩

theorem trans (s t u : Session) (first : s.Beside t) (second : t.Beside u) : s.Beside u where
  editor := second.editor.trans first.editor
  collector := second.collector.trans first.collector
  forgets := second.forgets.trans first.forgets
  due := second.due.trans first.due
  inFlight := second.inFlight.trans first.inFlight
  nextNumber := second.nextNumber.trans first.nextNumber
  tasks := second.tasks.trans first.tasks
  nextTicket := second.nextTicket.trans first.nextTicket
  attached b some := first.attached b (second.attached b some)

theorem kept {s t : Session} (beside : s.Beside t) (b : Ident) : t.collector.kept b = s.collector.kept b := by
  rw [beside.collector]

end Beside

theorem moves_register (client : Ident) (c : Connection) : (register client c).Moves Beside :=
  fun _ => ⟨rfl, rfl, rfl, rfl, rfl, rfl, rfl, rfl, fun _ => id⟩

theorem moves_unregister (client : Ident) : (unregister client).Moves Beside := by
  intro s
  refine ⟨rfl, rfl, rfl, rfl, rfl, rfl, rfl, rfl, ?_⟩
  intro b some none
  apply some
  show (((s.registry.attached.map (·.erase client)).get? b).getD []) = []
  rw [Table.get?_map]
  cases clients : s.registry.attached.get? b with
  | none => rfl
  | some l =>
    have empty : l = [] := by simpa [Client.Registry.attachedTo, clients] using none
    simp [empty]

section Clients

variable {R : Session → Session → Prop} (refl : ∀ s, R s s) (trans : ∀ s t u, R s t → R t u → R s u)

include refl trans

theorem moves_starting {client : Ident} {server : Server} {command : String} {root : Path}
    (launched : (onFiles (Client.launch server command root)).Moves R)
    (registered : (register client server.connection).Moves R) : (start client server command root).Moves R := by
  unfold start
  refine launched.bind trans fun _ => ?_
  refine (Act.moves_get refl).bind trans fun s => ?_
  refine (Act.moves_emit refl _).bind trans fun _ => ?_
  refine (Act.moves_ofExcept refl _).bind trans fun _ => ?_
  refine (Act.moves_emit refl _).bind trans fun _ => ?_
  refine registered.bind trans fun _ => ?_
  exact Act.moves_log refl _ _

theorem moves_stopping (unregistered : ∀ client, (unregister client).Moves R) : stop.Moves R := by
  have each (e : Ident × Connection) : (stopClient e.1 e.2).Moves R := by
    unfold stopClient
    refine (Act.moves_log refl _ _).bind trans fun _ => ?_
    refine (Act.moves_emit refl _).bind trans fun _ => ?_
    refine (Act.moves_ofExcept refl _).bind trans fun _ => ?_
    refine (Act.moves_emit refl _).bind trans fun _ => ?_
    refine (Act.moves_emit refl _).bind trans fun _ => ?_
    exact unregistered e.1
  unfold stop
  refine (Act.moves_get refl).bind trans fun s => ?_
  exact Act.moves_forEach trans refl each _

end Clients

theorem moves_start (client : Ident) (server : Server) (command : String) (root : Path) :
    (start client server command root).Moves Beside :=
  moves_starting Beside.refl Beside.trans (fun _ => ⟨rfl, rfl, rfl, rfl, rfl, rfl, rfl, rfl, fun _ => id⟩)
    (moves_register client server.connection)

theorem moves_stop : stop.Moves Beside := moves_stopping Beside.refl Beside.trans moves_unregister

theorem after_deed (d : Deed) (s : Session) : (Step.deed d).after s = d.effect s := d.state_act s

theorem after_respond (index : Nat) (answer : Answer) (s : Session) :
    (Step.respond index answer).after s =
      match s.registry.inFlight[index]? with
      | none => s
      | some r => s.answering index r answer := by
  have left := state_respond index answer s
  unfold Step.after Step.act
  dsimp only
  rcases ran : Session.respond index answer s with ⟨e | found, after, trace⟩
  · rw [ran] at left
    rw [Act.bind_apply_error ran]
    exact left
  · rw [ran] at left
    rw [Act.bind_apply_ok ran]
    exact left

theorem after_advance (s : Session) :
    Step.advance.after s =
      match s.registry.due with
      | [] => s
      | job :: due => (s.withDue due).doing job := state_advance s

theorem after_dispatch (method : String) (r : Response) (s : Session) :
    (Step.dispatch method r).after s = if method = hintMethod then s.taking r else s := state_dispatch method r s

private theorem editor_doing (s : Session) (job : Job) : (s.doing job).editor = s.editor := by
  cases job with
  | send buffer client =>
    rw [doing]
    split <;> rfl
  | deliver request answer =>
    rw [doing]
    split <;> rfl

theorem editor_after (s : Session) (step : Step) (other : ∀ d, step ≠ .deed d) :
    (step.after s).editor = s.editor := by
  cases step with
  | deed d => exact (other d rfl).elim
  | register client c => exact (moves_register client c s).editor
  | unregister client => exact (moves_unregister client s).editor
  | start client server command root => exact (moves_start client server command root s).editor
  | stop => exact (moves_stop s).editor
  | advance =>
    rw [after_advance]
    split
    · rfl
    · exact editor_doing _ _
  | respond index answer =>
    rw [after_respond]
    split <;> rfl
  | dispatch method r =>
    rw [after_dispatch]
    split <;> rfl

/-- Some steps lead from one session to another. -/
def Reaches (s t : Session) : Prop := ∃ steps, s.run steps = t

namespace Reaches

theorem refl (s : Session) : s.Reaches s := ⟨[], rfl⟩

theorem trans (s t u : Session) (first : s.Reaches t) (second : t.Reaches u) : s.Reaches u := by
  obtain ⟨steps, rfl⟩ := first
  obtain ⟨more, rfl⟩ := second
  exact ⟨steps ++ more, run_append s steps more⟩

end Reaches

section Wait

variable {R : Session → Session → Prop} (refl : ∀ s, R s s) (trans : ∀ s t u, R s t → R t u → R s u)
  (advances : advance.Moves R)

include refl trans advances

private theorem moves_advanceBy (n : Nat) : (advanceBy n).Moves R := by
  induction n with
  | zero => exact Act.moves_pure refl _
  | succ n ih =>
    have attempted : (Act.attempt advance).Moves R := advances
    unfold advanceBy
    refine attempted.bind trans fun outcome => ih.bind trans fun faults => ?_
    cases outcome with
    | ok u => exact Act.moves_pure refl _
    | error e => exact Act.moves_pure refl _

private theorem moves_settle : settle.Moves R :=
  (Act.moves_get refl).bind trans fun _ => moves_advanceBy refl trans advances _

theorem moves_wait {answers : List Answer}
    (answered : (onRegistry (Act.modify (·.answeredAll answers))).Moves R) : (wait answers).Moves R := by
  have settled := moves_settle refl trans advances
  unfold wait
  refine (Act.moves_get refl).bind trans fun s => ?_
  split
  · exact Act.moves_pure refl _
  refine settled.bind trans fun early => answered.bind trans fun _ => settled.bind trans fun late => ?_
  cases early ++ late with
  | nil => exact Act.moves_pure refl _
  | cons e faults => exact Act.moves_fail refl _

end Wait

private theorem answeredAll_nil {reg : Registry} (inFlight : reg.inFlight = []) (answers : List Answer) :
    reg.answeredAll answers = reg := by
  unfold Registry.answeredAll
  rw [inFlight, Registry.deliveries, List.append_nil, ← inFlight]

private theorem answeredAll_cons {s : Session} {r : Request} {rs : List Request}
    (inFlight : s.registry.inFlight = r :: rs) (answers : List Answer) :
    ∃ answer rest, (answer ∈ answers ∨ answer = .hints none) ∧ rest ⊆ answers ∧
      s.registry.answeredAll answers = (s.answering 0 r answer).registry.answeredAll rest := by
  unfold answering Registry.answeredAll
  rw [inFlight]
  cases answers with
  | nil => exact ⟨.hints none, [], Or.inr rfl, fun _ => id, by simp [Registry.deliveries]⟩
  | cons answer rest =>
    exact ⟨answer, rest, Or.inl List.mem_cons_self, List.subset_cons_self answer rest, by simp [Registry.deliveries]⟩

theorem run_answeredAll (rs : List Request) (answers : List Answer) (s : Session)
    (inFlight : s.registry.inFlight = rs) :
    ∃ given : List Answer, (∀ a ∈ given, a ∈ answers ∨ a = .hints none) ∧
      s.run (given.map (.respond 0)) = { s with registry := s.registry.answeredAll answers } := by
  induction rs generalizing answers s with
  | nil =>
    refine ⟨[], fun a member => (List.not_mem_nil member).elim, ?_⟩
    rw [answeredAll_nil inFlight]
    rfl
  | cons r rs ih =>
    -- The first request is always at index zero: those before it have left.
    obtain ⟨answer, rest, own, among, same⟩ := answeredAll_cons inFlight answers
    have first : (Step.respond 0 answer).after s = s.answering 0 r answer := by
      rw [after_respond, inFlight]
      rfl
    obtain ⟨given, taken, later⟩ := ih rest (s.answering 0 r answer) (by simp [answering, inFlight])
    refine ⟨answer :: given, ?_, ?_⟩
    · intro a member
      rcases List.mem_cons.1 member with rfl | member
      · exact own
      · exact (taken a member).imp_left fun inside => among inside
    · rw [same]
      exact (congrArg (run · _) first).trans later

theorem reaches_wait (answers : List Answer) : (wait answers).Moves Reaches := by
  refine moves_wait Reaches.refl Reaches.trans (fun s => ⟨[.advance], rfl⟩) ?_
  intro s
  obtain ⟨given, -, ran⟩ := run_answeredAll _ answers s rfl
  exact ⟨given.map (.respond 0), ran⟩

end HintLine.Session
