import HintLine.Proofs.Command.Conduct
import HintLine.Proofs.Session.Coherence

/-!
What a command leaves behind. Once its server is up the buffer is closed in any case, and nothing is kept of it. The
server is stopped and the user is no longer passed messages just if the server shuts down when it is asked to; and of a
server that does not take the greeting nothing is cleaned up.
-/

set_option autoImplicit false

namespace HintLine

open HintLine.Client (Connection Server)
open HintLine.Effect (Through)

namespace Session

/-- Two sessions with the same buffers, clients and wiring. -/
structure Furnished (s t : Session) : Prop where
  buffers : t.editor.buffers = s.editor.buffers
  clients : t.registry.clients = s.registry.clients
  wiring : t.wiring = s.wiring

namespace Furnished

theorem refl (s : Session) : s.Furnished s := ⟨rfl, rfl, rfl⟩

theorem trans (s t u : Session) (first : s.Furnished t) (second : t.Furnished u) : s.Furnished u :=
  ⟨second.buffers.trans first.buffers, second.clients.trans first.clients, second.wiring.trans first.wiring⟩

end Furnished

/-- A deed that opens and closes nothing, and leaves the user in touch. -/
def Deed.Calm : Deed → Prop
  | openBuffer _ _ _ | closeBuffer _ | silence => False
  | _ => True

private theorem furnished_deed {d : Deed} (calm : d.Calm) : d.act.Moves Furnished := by
  intro s
  rw [d.state_act]
  cases d with
  | openBuffer | closeBuffer | silence => exact calm.elim
  | setCurrent | attach | attached =>
    rw [Deed.effect]
    split
    · exact ⟨rfl, rfl, rfl⟩
    · exact Furnished.refl s
  | setCursor | parse | enable | hold => exact ⟨rfl, rfl, rfl⟩

private theorem furnished_advance : advance.Moves Furnished := by
  intro s
  rw [state_advance]
  split
  · exact Furnished.refl s
  next job due _ =>
    cases job with
    | send buffer client =>
      rw [doing]
      split <;> exact ⟨rfl, rfl, rfl⟩
    | deliver r answer =>
      rw [doing]
      split <;> exact ⟨rfl, rfl, rfl⟩

private theorem furnished_wait (answers : List Client.Answer) : (wait answers).Moves Furnished :=
  moves_wait Furnished.refl Furnished.trans furnished_advance fun _ => ⟨rfl, rfl, rfl⟩

private theorem closeBuffer_apply (buffer : Ident) (s : Session) : ∃ t : Trace, (∀ e ∈ t, e.Through [.closing]) ∧
    closeBuffer buffer s = ⟨.ok (), (Deed.closeBuffer buffer).effect s, t⟩ := by
  have told := tells_closeBuffer buffer s
  have left := state_closeBuffer buffer s
  have done : (closeBuffer buffer s).outcome = .ok () := by
    unfold closeBuffer
    rw [Act.bind_apply_ok (show onEditor (Editor.closeBuffer buffer) s = ⟨.ok (), _, _⟩ from rfl)]
    dsimp only
    rw [Act.bind_apply_ok (Act.get_apply _)]
    cases s.wiring.forgets with
    | true => rfl
    | false => rfl
  rcases closed : closeBuffer buffer s with ⟨outcome, after, t⟩
  rw [closed] at told left done
  obtain rfl : outcome = .ok () := done
  obtain rfl : after = _ := left
  exact ⟨t, told, rfl⟩

private theorem stop_of_single {s : Session} {client : Ident} {c : Connection}
    (single : s.registry.clients.entries = [(client, c)]) :
    ∃ record, stop s =
      match c.shutdown with
      | .ok _ =>
        ⟨.ok (), { s with registry := s.registry.unregister client },
          [.log record, .call (.shutdown client), .call (.exit client), .call (.stop client)]⟩
      | .error e => ⟨.error e, s, [.log record, .call (.shutdown client)]⟩ := by
  refine ⟨⟨.trace, s!"Stop language client {client.text}"⟩, ?_⟩
  unfold stop
  rw [Act.bind_apply_ok (Act.get_apply _), single]
  have one : (Act.forEach [(client, c)] fun e => stopClient e.1 e.2) = stopClient client c >>= fun _ => pure () := rfl
  rw [one]
  have stopped : stopClient client c s =
      match c.shutdown with
      | .ok _ =>
        ⟨.ok (), { s with registry := s.registry.unregister client },
          [.log ⟨.trace, s!"Stop language client {client.text}"⟩, .call (.shutdown client), .call (.exit client),
            .call (.stop client)]⟩
      | .error e =>
        ⟨.error e, s, [.log ⟨.trace, s!"Stop language client {client.text}"⟩, .call (.shutdown client)]⟩ := by
    unfold stopClient
    rw [Act.bind_apply_ok (Act.log_apply _ _ s), Act.bind_apply_ok (Act.emit_apply _ s)]
    cases c.shutdown <;> rfl
  cases ended : c.shutdown with
  | ok u =>
    rw [ended] at stopped
    rw [Act.bind_apply_ok stopped]
    rfl
  | error e =>
    rw [ended] at stopped
    rw [Act.bind_apply_error stopped]
    rfl

end Session

namespace Command

open Session (Deed Reaches Furnished)

private theorem moves_converse {R : Session → Session → Prop} (refl : ∀ s, R s s)
    (trans : ∀ s t u, R s t → R t u → R s u)
    (deeds : ∀ d : Deed, d.Calm → d.act.Moves R) (waits : ∀ answers, (Session.wait answers).Moves R) (verb : Verb)
    (inv : Invocation) (server : Server) (buffer : Ident) : (converse verb inv server buffer).Moves R := by
  have shown (cursor : Cursor) : (showLine cursor).Moves R :=
    (deeds (.setCursor cursor) trivial).bind trans fun _ => deeds .hold trivial
  have presented : (present verb inv buffer).Moves R := by
    cases verb with
    | «show» => exact shown _
    | hints =>
      refine (Act.moves_get refl).bind trans fun s => ?_
      refine Act.moves_forEach trans refl (fun line => ?_) _
      exact (Act.moves_emit refl _).bind trans fun _ => shown _
  have enabled : (Session.enable buffer).Moves R := deeds (.enable buffer) trivial
  have awaited : (await server.answer).Moves R := (Act.moves_get refl).bind trans fun s => waits _
  have asked : (ask server buffer).Moves R := by
    unfold ask
    refine (deeds (.attach buffer clientId) trivial).bind trans fun _ => ?_
    refine (deeds (.attached buffer clientId) trivial).bind trans fun _ => ?_
    refine (Act.moves_get refl).bind trans fun s => ?_
    split
    · exact enabled.bind trans fun _ => awaited
    · exact awaited
  rw [converse_eq]
  exact asked.bind trans fun _ => presented

private theorem furnished_converse (verb : Verb) (inv : Invocation) (server : Server) (buffer : Ident) :
    (converse verb inv server buffer).Moves Furnished :=
  moves_converse Furnished.refl Furnished.trans (fun _ calm => Session.furnished_deed calm) Session.furnished_wait verb
    inv server buffer

theorem tells_present (verb : Verb) (inv : Invocation) (buffer : Ident) :
    (present verb inv buffer).Tells (Through [.log, .lookup, .output]) := by
  have shown (cursor : Cursor) : (showLine cursor).Tells (Through [.log, .lookup, .output]) := by
    refine Act.Tells.bind (Act.tells_of_silent fun _ => rfl) fun _ => Session.tells_hold
  cases verb with
  | «show» => exact shown _
  | hints =>
    refine Act.tells_get.bind fun s => Act.tells_forEach (fun line => ?_) _
    exact (Act.tells_emit_through .output rfl (by decide)).bind fun _ => shown _

private theorem tells_converse (verb : Verb) (inv : Invocation) (server : Server) (buffer : Ident) :
    (converse verb inv server buffer).Tells
      (Through [.log, .lookup, .output, .errors, .telling, .asking, .handling]) := by
  rw [converse_eq]
  exact ((tells_ask server buffer).widen (by decide)).bind fun _ => (tells_present verb inv buffer).widen (by decide)

private theorem cleanUp_cases {s : Session} {c : Connection} (single : s.registry.clients.entries = [(clientId, c)])
    (buffer : Ident) :
    let closed := (Deed.closeBuffer buffer).effect s
    (c.shutdown = .ok () ∧ (cleanUp buffer s).outcome = .ok () ∧
      (cleanUp buffer s).state =
        { closed with
          registry := closed.registry.unregister clientId
          wiring := { closed.wiring with reports := false } } ∧
      Effect.call (.stop clientId) ∈ (cleanUp buffer s).trace) ∨
    ∃ e, c.shutdown = .error e ∧ (cleanUp buffer s).outcome = .error e ∧ (cleanUp buffer s).state = closed ∧
      Effect.call (.stop clientId) ∉ (cleanUp buffer s).trace := by
  intro closed
  obtain ⟨t, told, closes⟩ := Session.closeBuffer_apply buffer s
  have same : closed.registry = s.registry := by
    show ((Deed.closeBuffer buffer).effect s).registry = s.registry
    rw [Deed.effect]
    split <;> rfl
  obtain ⟨record, stops⟩ := Session.stop_of_single (s := closed) (same ▸ single)
  unfold cleanUp
  rw [Act.bind_apply_ok closes]
  dsimp only
  cases ended : c.shutdown with
  | ok u =>
    rw [ended] at stops
    rw [Act.bind_apply_ok stops]
    left
    refine ⟨rfl, rfl, rfl, ?_⟩
    simp
  | error e =>
    rw [ended] at stops
    rw [Act.bind_apply_error stops]
    right
    refine ⟨e, rfl, rfl, rfl, ?_⟩
    intro member
    rcases List.mem_append.1 member with closing | stopping
    · have channel : Effect.Channel.stopping ∈ [Effect.Channel.closing] := told _ closing
      cases List.mem_singleton.1 channel
    · simp at stopping

/-- Nothing is left of a command: its client was stopped, no buffer is open and nothing is kept of any, and messages for
the user are passed to nobody. -/
structure CleanedUp (r : Run Session Unit) : Prop where
  stopped : Effect.call (.stop clientId) ∈ r.trace
  closed : ∀ b, r.state.editor.isOpen b = false
  forgotten : ∀ b, r.state.collector.bucket? b = none
  silenced : r.state.outlet = none

private theorem nothing_after_closing {s : Session} (coherent : s.Coherent) {buffer : Ident}
    (only : ∀ b, s.editor.isOpen b = decide (b = buffer)) (verb : Verb) (inv : Invocation) (server : Server) :
    let closed := (Deed.closeBuffer buffer).effect (converse verb inv server buffer s).state
    (∀ b, closed.editor.isOpen b = false) ∧ ∀ b, closed.collector.bucket? b = none := by
  intro closed
  have furnished := furnished_converse verb inv server buffer s
  obtain ⟨steps, reached⟩ := moves_converse Reaches.refl Reaches.trans (fun d _ u => ⟨[.deed d], rfl⟩)
    Session.reaches_wait verb inv server buffer s
  have coherentThen : (converse verb inv server buffer s).state.Coherent := reached ▸ coherent.run steps
  have shut (b : Ident) : closed.editor.isOpen b = false := by
    have editor : closed.editor = (converse verb inv server buffer s).state.editor.closed buffer := by
      show ((Deed.closeBuffer buffer).effect _).editor = _
      rw [Deed.effect]
      split <;> rfl
    have same : (converse verb inv server buffer s).state.editor.isOpen b = s.editor.isOpen b := by
      unfold Editor.isOpen
      rw [furnished.buffers]
    rw [editor, Editor.isOpen_closed, same, only]
    split
    · rfl
    next other => exact decide_eq_false other
  refine ⟨shut, ?_⟩
  intro b
  have isShut : ¬ closed.editor.isOpen b = true := by simp [shut b]
  exact congrArg Collector.Kept.bucket ((coherentThen.effect (.closeBuffer buffer)).kept_closed isShut)

/-- How a command ends whose server was greeted: nothing is cleaned up if the server does not take the greeting; the
buffer alone if it does not shut down; and everything otherwise. -/
inductive Ends (server : Server) (r : Run Session Unit) : Prop
  | refused (e : Fault) : server.handshake = .error e → r.outcome = .error e →
    Effect.call (.stop clientId) ∉ r.trace → r.state.editor.isOpen (.number 1) = true → r.state.outlet ≠ none →
    Ends server r
  | unstopped (e : Fault) : server.handshake = .ok () → server.shutdown = .error e → r.outcome = .error e →
    Effect.call (.stop clientId) ∉ r.trace → (∀ b, r.state.editor.isOpen b = false) →
    (∀ b, r.state.collector.bucket? b = none) → r.state.outlet ≠ none → Ends server r
  | cleanedUp : server.handshake = .ok () → server.shutdown = .ok () → CleanedUp r → Ends server r

section Serving

variable {verb : Verb} {inv : Invocation} {server : Server} {buffer : Ident} {s : Session}
  (alone : s.registry.clients.entries = [(clientId, server.connection)])

include alone

private theorem single_after_converse :
    (converse verb inv server buffer s).state.registry.clients.entries = [(clientId, server.connection)] := by
  rw [(furnished_converse verb inv server buffer s).clients, alone]

theorem outcome_ensuring_cleanUp (shuts : server.shutdown = .ok ()) :
    (Act.ensuring (converse verb inv server buffer) (cleanUp buffer) s).outcome =
      (converse verb inv server buffer s).outcome := by
  have single : (converse verb inv server buffer s).state.registry.clients.entries = [(clientId, server.connection)] :=
    single_after_converse alone
  rcases cleanUp_cases single buffer with ⟨-, done, -⟩ | ⟨e, refuses, -⟩
  · rw [Act.ensuring_apply_ok done]
  · rw [show server.connection.shutdown = .ok () from shuts] at refuses
    cases refuses

/-- How a conversation ends, whatever was done before it to start the server. -/
private theorem ends_converse (coherent : s.Coherent) (only : ∀ b, s.editor.isOpen b = decide (b = buffer))
    (reports : s.wiring.reports = true) (greets : server.handshake = .ok ()) {t : Trace}
    (early : Effect.call (.stop clientId) ∉ t) :
    let r := Act.ensuring (converse verb inv server buffer) (cleanUp buffer) s
    Ends server ⟨r.outcome, r.state, t ++ r.trace⟩ := by
  intro r
  let talked := converse verb inv server buffer s
  obtain ⟨shut, none⟩ := nothing_after_closing coherent only verb inv server
  have silent : Effect.call (.stop clientId) ∉ talked.trace :=
    (tells_converse verb inv server buffer).not_mem (show Effect.Channel.stopping ∉ _ by decide) s
  have single : talked.state.registry.clients.entries = [(clientId, server.connection)] := single_after_converse alone
  rcases cleanUp_cases single buffer with ⟨ends, done, left, stops⟩ | ⟨e, ends, failed, left, unstops⟩
  · have ensured : r = _ := Act.ensuring_apply_ok done
    rw [ensured, left]
    refine .cleanedUp greets ends ⟨?_, shut, none, rfl⟩
    exact List.mem_append_right _ (List.mem_append_right _ stops)
  · have ensured : r = _ := Act.ensuring_apply_error failed
    have reports : ((Deed.closeBuffer buffer).effect talked.state).wiring.reports = true := by
      have wiring := (furnished_converse verb inv server buffer s).wiring
      rw [Deed.effect]
      split <;> exact (congrArg Wiring.reports wiring).trans reports
    rw [ensured, left]
    refine .unstopped e greets ends rfl ?_ shut none ?_
    · intro member
      rcases List.mem_append.1 member with started | member
      · exact early started
      · exact (List.mem_append.1 member).elim silent unstops
    · show Session.outlet _ ≠ Option.none
      unfold Session.outlet
      rw [if_pos reports]
      exact Option.some_ne_none _

end Serving

private theorem ends_conduct (verb : Verb) (inv : Invocation) (server : Server) (settings : Settings Plugin.Callable)
    (files : Files) (area : Terminal.EchoArea) (parses : Bool)
    (greeted : ∃ uri announces, Effect.call (.handshake uri announces) ∈
      (conduct verb inv server (Session.new settings files area parses)).trace) :
    Ends server (conduct verb inv server (Session.new settings files area parses)) := by
  obtain ⟨uri, announces, greeted⟩ := greeted
  let start := Session.new settings files area parses
  obtain ⟨t, logs, conducted⟩ := conduct_of_read verb inv server start
  have calls {c : Client.Call} (member : Effect.call c ∈ t) : False := by
    obtain ⟨record, same⟩ := logs _ member
    cases same
  change Effect.call (.handshake uri announces) ∈ (conduct verb inv server start).trace at greeted
  change Ends server (conduct verb inv server start)
  cases reading : (readText (Path.ofString inv.file) start.files).outcome with
  | error e =>
    rw [reading] at conducted
    dsimp only at conducted
    rw [conducted] at greeted
    exact (calls greeted).elim
  | ok text =>
    rw [reading] at conducted
    dsimp only at conducted
    obtain ⟨fs, u, told, served⟩ :=
      serve_cases verb inv server (rootOf start inv) (.number start.editor.nextId) (opening start inv text)
    have unstopped : Effect.call (.stop clientId) ∉ t ++ u := by
      intro member
      have channel (inside : Effect.call (.stop clientId) ∈ u) : Effect.Channel.stopping ∈ _ := told _ inside
      rcases List.mem_append.1 member with early | started
      · exact calls early
      · have own := channel started
        revert own
        decide
    rcases served with ⟨e, refused, ran⟩ | ⟨greets, ran⟩
    · rw [ran] at conducted
      rw [conducted] at greeted ⊢
      have refuses : server.handshake = .error e := by
        rcases List.mem_append.1 greeted with early | member
        · exact (calls early).elim
        · exact refused uri announces member
      exact .refused e refuses rfl unstopped rfl nofun
    · rw [ran] at conducted
      dsimp only at conducted
      rw [← List.append_assoc] at conducted
      let serving : Session := joined (opening start inv text) fs server
      have coherent : serving.Coherent :=
        ((Session.Coherent.new settings files area parses).effect _).of_same rfl rfl rfl
      have only : ∀ b, serving.editor.isOpen b = decide (b = .number start.editor.nextId) := by
        intro b
        have opened := Editor.isOpen_opened start.editor (start.uriOf (Path.ofString inv.file)) text
          (languageOf inv.languageId (Path.ofString inv.file)) b
        refine opened.trans ?_
        split
        next own => exact (decide_eq_true own).symm
        next other => exact (decide_eq_false other).symm
      rw [conducted]
      exact ends_converse rfl coherent only rfl greets unstopped

/-- What a command leaves behind whose server process has come up, which is when the server is greeted. Nothing at all
is left just if the server takes the greeting and shuts down when it is asked to. -/
theorem cleanedUp_iff (verb : Verb) (inv : Invocation) (server : Server) (settings : Settings Plugin.Callable)
    (files : Files) (area : Terminal.EchoArea) (parses : Bool) :
    let r := conduct verb inv server (Session.new settings files area parses)
    (∃ uri announces, Effect.call (.handshake uri announces) ∈ r.trace) →
      (CleanedUp r ↔ server.handshake = .ok () ∧ server.shutdown = .ok ()) ∧
      (server.handshake = .ok () → (∀ b, r.state.editor.isOpen b = false) ∧ ∀ b, r.state.collector.bucket? b = none) ∧
      (∀ e, server.handshake = .error e → r.outcome = .error e ∧ Effect.call (.stop clientId) ∉ r.trace ∧
        r.state.editor.isOpen (.number 1) = true ∧ r.state.outlet ≠ none) ∧
      (∀ e, server.handshake = .ok () → server.shutdown = .error e → r.outcome = .error e ∧
        Effect.call (.stop clientId) ∉ r.trace ∧ r.state.outlet ≠ none) := by
  intro r greeted
  have ends : Ends server r := ends_conduct verb inv server settings files area parses greeted
  cases ends with
  | refused e refuses outcome unstopped isOpen passes =>
    rw [refuses]
    refine ⟨⟨fun clean => (unstopped clean.stopped).elim, nofun⟩, nofun, ?_, nofun⟩
    rintro f ⟨⟩
    exact ⟨outcome, unstopped, isOpen, passes⟩
  | unstopped e greets refuses outcome unstopped shut none passes =>
    rw [greets, refuses]
    refine ⟨⟨fun clean => (unstopped clean.stopped).elim, nofun⟩, fun _ => ⟨shut, none⟩, nofun, ?_⟩
    rintro f - ⟨⟩
    exact ⟨outcome, unstopped, passes⟩
  | cleanedUp greets shuts clean =>
    rw [greets, shuts]
    exact ⟨⟨fun _ => ⟨rfl, rfl⟩, fun _ => clean⟩, fun _ => ⟨clean.closed, clean.forgotten⟩, nofun, nofun⟩

private theorem greeted_desk {server : Server} (launches : server.launch = .ok ()) :
    ∃ uri announces, Effect.call (.handshake uri announces) ∈ (conduct .hints asking server outset).trace :=
  greeted_conduct readText_desk (launch_desk launches)

/-- A server that refuses to be told of the file. -/
private def deaf : Server := { Server.willing true with didOpen := .error (.rpc ⟨.base, "no"⟩) }

theorem cleanedUp_iff_untold :
    (∃ uri announces, Effect.call (.handshake uri announces) ∈ (conduct .hints asking deaf outset).trace) ∧
      deaf.handshake = .ok () ∧ deaf.shutdown = .ok () ∧ CleanedUp (conduct .hints asking deaf outset) := by
  have greeted := greeted_desk (show deaf.launch = .ok () from rfl)
  have iff := (cleanedUp_iff .hints asking deaf .standard desk (.new .standard none) false greeted).1
  exact ⟨greeted, rfl, rfl, iff.2 ⟨rfl, rfl⟩⟩

private def aloof : Server := { Server.willing true with handshake := .error (.rpc ⟨.base, "no"⟩) }

private def stubborn : Server := { Server.willing true with shutdown := .error (.rpc ⟨.base, "no"⟩) }

/-- A server that does not take the greeting, or does not shut down, is greeted and not stopped, and messages for the
user are still passed on. -/
theorem unstopped_of_refusal :
    (∀ server ∈ [aloof, stubborn],
      (∃ uri announces, Effect.call (.handshake uri announces) ∈ (conduct .hints asking server outset).trace) ∧
        Effect.call (.stop clientId) ∉ (conduct .hints asking server outset).trace ∧
        (conduct .hints asking server outset).state.outlet ≠ none) ∧
      (conduct .hints asking aloof outset).state.editor.isOpen (.number 1) = true := by
  have refused := greeted_desk (show aloof.launch = .ok () from rfl)
  have unheard := greeted_desk (show stubborn.launch = .ok () from rfl)
  have first : Ends aloof _ := ends_conduct .hints asking aloof .standard desk (.new .standard none) false refused
  have second : Ends stubborn _ :=
    ends_conduct .hints asking stubborn .standard desk (.new .standard none) false unheard
  cases first with
  | unstopped _ greets | cleanedUp greets => cases greets
  | refused e _ _ unstopped isOpen passes =>
    refine ⟨?_, isOpen⟩
    intro server member
    rcases List.mem_cons.1 member with rfl | member
    · exact ⟨refused, unstopped, passes⟩
    obtain rfl := List.mem_singleton.1 member
    cases second with
    | refused _ refuses => cases refuses
    | cleanedUp _ shuts => cases shuts
    | unstopped e _ _ _ unstopped _ _ passes => exact ⟨unheard, unstopped, passes⟩

end Command

end HintLine
