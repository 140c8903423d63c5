import HintLine.Proofs.Command.Stages
import HintLine.Proofs.Session.Calls

/-!
Hints that are asked for by themselves, and hints that are asked for by hand. A command does the second where the first
is not wanted, so that it makes no difference to what it does: one request is made if the server was told of the file
and gives hints, and none otherwise.
-/

set_option autoImplicit false

namespace HintLine

open HintLine.Client (Server)
open HintLine.Effect (Channel)
open HintLine.Plugin (Callable Catalogue)

/-- All that was done but the records in the log. -/
def Trace.observed (t : Trace) : Trace := t.filter fun e => e.record?.isNone

namespace Command

open Session (Akin)

/-- The server was told of the file and took it, so that it can be asked. -/
def CanAsk (server : Server) (t : Trace) : Prop :=
  (∃ uri language version text, .call (.didOpen clientId uri language version text) ∈ t) ∧ server.didOpen = .ok ()

/-- Hints are asked for once if the server can be asked and gives any, and not at all otherwise. -/
structure AsksWhenAble (server : Server) (t : Trace) : Prop where
  once : server.provides = true ∧ CanAsk server t → t.requestCount = 1
  never : ¬ (server.provides = true ∧ CanAsk server t) → t.requestCount = 0

namespace AsksWhenAble

variable {server : Server}

private theorem nil : AsksWhenAble server [] := by
  refine ⟨?_, fun _ => rfl⟩
  rintro ⟨-, ⟨uri, language, version, text, told⟩, -⟩
  cases told

private theorem between {before t after : Trace} {cs : List Channel} (asks : AsksWhenAble server t)
    (first : ∀ e ∈ before, e.Through cs) (last : ∀ e ∈ after, e.Through cs) (telling : .telling ∉ cs)
    (asking : .asking ∉ cs) : AsksWhenAble server (before ++ (t ++ after)) := by
  have count : (before ++ (t ++ after)).requestCount = t.requestCount := by
    rw [Trace.requestCount_append, Trace.requestCount_append, Trace.requestCount_eq_zero first asking,
      Trace.requestCount_eq_zero last asking, Nat.zero_add, Nat.add_zero]
  have told (uri language : String) (version : Nat) (text : String) :
      Effect.call (.didOpen clientId uri language version text) ∈ before ++ (t ++ after) ↔
        Effect.call (.didOpen clientId uri language version text) ∈ t := by
    have other {u : Trace} (through : ∀ e ∈ u, e.Through cs) :
        Effect.call (.didOpen clientId uri language version text) ∉ u := fun member => telling (through _ member)
    simp [other first, other last]
  have able : CanAsk server (before ++ (t ++ after)) ↔ CanAsk server t := by
    unfold CanAsk
    simp only [told]
  exact ⟨fun can => count.trans (asks.once (by rwa [able] at can)),
    fun cannot => count.trans (asks.never (by rwa [able] at cannot))⟩

private theorem of_other {t : Trace} {cs : List Channel} (through : ∀ e ∈ t, e.Through cs) (telling : .telling ∉ cs)
    (asking : .asking ∉ cs) : AsksWhenAble server t := by
  have asks : AsksWhenAble server (t ++ ([] ++ [])) := nil.between through nofun telling asking
  rwa [List.append_nil, List.append_nil] at asks

end AsksWhenAble

section Attending

variable {s : Session} {server : Server} {buffer : Ident} (attending : Attending s server buffer)

include attending

private theorem requestCount_await :
    (await server.answer (asked s buffer)).trace.requestCount = if server.provides then 1 else 0 := by
  let t := asked s buffer
  let answers := List.replicate t.registry.pending server.answer
  have same : (await server.answer t).trace = (Session.wait answers t).trace := rfl
  show (await server.answer t).trace.requestCount = _
  rw [same]
  cases gives : server.provides with
  | false =>
    rw [Session.wait_idle answers (attending.tasks_silent gives)]
    rfl
  | true =>
    have due : t.registry.due = [.send buffer clientId] := by
      show (asked s buffer).registry.due = _
      rw [attending.due_asked, gives]
      rfl
    have one : answers = [server.answer] := by
      show List.replicate (asked s buffer).registry.pending server.answer = _
      rw [attending.pending_asked, gives]
      rfl
    obtain ⟨registry, r, -, -, -, jobs, told⟩ := attending.told_asked gives
    have single : (t.told answers).registry.due = [.deliver r server.answer] := by
      rw [one]
      show ((asked s buffer).told [server.answer]).registry.due = _
      rw [told]
      exact jobs
    obtain ⟨outcome, ran⟩ := Session.wait_apply answers (attending.tasks_giving gives)
    rw [ran]
    dsimp only
    rw [Trace.requestCount_append, Session.trace_settle_of_single due, Session.trace_settle_of_single single,
      Session.requestCount_perform, Session.requestCount_perform]
    exact congrArg (fun able => (if able = true then 1 else 0) + 0) attending.canSend_asked

private theorem asksWhenAble_ask : AsksWhenAble server (ask server buffer s).trace := by
  have told := Session.tells_attach buffer clientId s
  have able : s.canAttach buffer clientId = server.didOpen.isOk := by
    unfold Session.canAttach
    rw [attending.isOpen, attending.client]
    rfl
  rw [ask_eq]
  rcases Session.attach_cases buffer clientId s with ⟨can, -, b, -, ran⟩ | ⟨cannot, e, t, ran⟩
  · have takes : server.didOpen = .ok () := by
      rw [able] at can
      cases opens : server.didOpen with
      | ok u => rfl
      | error e =>
        rw [opens] at can
        cases can
    obtain ⟨u, logs, wished⟩ := attending.wish_linked
    have logged : ∀ e ∈ u, e.Through [.log] := by
      intro e member
      obtain ⟨r, rfl⟩ := logs e member
      exact List.mem_cons_self
    rw [Act.bind_apply_ok ran]
    dsimp only
    rw [Act.bind_apply_ok wished]
    dsimp only
    have count : Trace.requestCount ([.call (.didOpen clientId b.uri b.languageId b.version b.text)] ++
        (u ++ (await server.answer (asked s buffer)).trace)) = if server.provides then 1 else 0 := by
      rw [Trace.requestCount_append, Trace.requestCount_append, Trace.requestCount_eq_zero logged (by decide),
        requestCount_await attending, Nat.zero_add]
      exact Nat.zero_add _
    refine ⟨fun ⟨gives, _⟩ => ?_, fun unable => ?_⟩
    · rw [count, gives]
      rfl
    · rw [count, if_neg]
      intro gives
      exact unable ⟨gives, ⟨b.uri, b.languageId, b.version, b.text, List.mem_cons_self⟩, takes⟩
  · have refuses : server.didOpen ≠ .ok () := by
      intro takes
      rw [able, takes] at cannot
      cases cannot
    rw [ran] at told
    rw [Act.bind_apply_error ran]
    refine ⟨fun ⟨_, _, takes⟩ => (refuses takes).elim, fun _ => ?_⟩
    exact Trace.requestCount_eq_zero told (by decide)

variable {sees : Effect → Bool} {P : Settings Callable → Settings Callable → Prop}

private theorem Attending.akin {t : Session} (akin : Akin P s t) : Attending t server buffer := by
  obtain ⟨styles, settings, cursor, last, may, rfl⟩ := akin
  exact ⟨attending.named, attending.isOpen, attending.current, attending.client, attending.alone, attending.due,
    attending.inFlight, attending.tasks, attending.nothing⟩

private theorem inStep_ask_either (logs : ∀ r, sees (.log r) = false)
    (reports : ∀ a b, P a b → a.notifyErrors = b.notifyErrors ∨ ∀ text, sees (.err text) = false) {t : Session}
    (akin : Akin P s t) : (ask server buffer s).InStep sees (Akin P) (ask server buffer t) := by
  have attends : Attending t server buffer := Attending.akin attending akin
  rw [ask_eq]
  have attached : (Session.attach buffer clientId s).InStep sees (Akin P) (Session.attach buffer clientId t) :=
    Session.inStep_attach buffer clientId s t akin
  refine Act.inStep_bind_at attached fun u attaches => ?_
  have linked {s : Session} (attaches : (Session.attach buffer clientId s).outcome = .ok ()) :
      (Session.attach buffer clientId s).state = { s with registry := s.registry.link buffer clientId } := by
    rw [Session.state_attach, if_pos ((Session.outcome_attach buffer clientId s).1 attaches)]
  rw [linked attaches, linked (attached.outcome.symm.trans attaches)]
  have hidden {u : Trace} (recorded : ∀ e ∈ u, ∃ r, e = .log r) : u.filter sees = [] := by
    refine List.filter_eq_nil_iff.2 fun e member => ?_
    obtain ⟨r, rfl⟩ := recorded e member
    simp [logs]
  have wishes : (wish buffer { s with registry := s.registry.link buffer clientId }).InStep sees (Akin P)
      (wish buffer { t with registry := t.registry.link buffer clientId }) := by
    obtain ⟨v, first, wished⟩ := attending.wish_linked
    obtain ⟨w, second, went⟩ := attends.wish_linked
    rw [wished, went]
    refine ⟨rfl, ?_, (hidden first).trans (hidden second).symm⟩
    obtain ⟨styles, settings, cursor, last, may, rfl⟩ := akin
    exact ⟨styles, settings, cursor, last, may, rfl⟩
  exact Act.inStep_bind_at wishes fun v _ => inStep_await logs reports _ _ _ wishes.state

end Attending

private theorem asksWhenAble_conduct (verb : Verb) (inv : Invocation) (server : Server) (settings : Settings Callable)
    (files : Files) (area : Terminal.EchoArea) (parses : Bool) :
    AsksWhenAble server (conduct verb inv server (.new settings files area parses)).trace := by
  let cs : List Channel := [.log, .starting, .greeting, .lookup, .output, .closing, .stopping]
  have leading := (tells_lead inv server).widen (show _ ⊆ cs by decide) (.new settings files area parses)
  rw [conduct_eq]
  rcases led : lead inv server (.new settings files area parses) with ⟨e | buffer, after, early⟩
  · rw [led] at leading
    rw [Act.bind_apply_error led]
    exact .of_other leading (by decide) (by decide)
  · obtain ⟨own, text, reached, left⟩ := lead_succeeded (congrArg Run.outcome led)
    obtain rfl : buffer = .number 1 := own
    rw [led] at left leading
    have attending : Attending after server (.number 1) := by
      rw [show after = _ from left]
      exact attending_joined settings files reached area parses inv text server
    obtain ⟨shown, conversed, presents⟩ := Act.trace_bind_of_tells (ask server (.number 1))
      (fun _ => (tells_present verb inv (.number 1)).widen (show _ ⊆ cs by decide)) after
    have cleans := (tells_cleanUp (.number 1)).widen (show _ ⊆ cs by decide)
      (converse verb inv server (.number 1) after).state
    rw [← converse_eq] at conversed
    rw [Act.bind_apply_ok led]
    dsimp only
    rw [Act.trace_ensuring, conversed, List.append_assoc]
    have asks : AsksWhenAble server (ask server (.number 1) after).trace := asksWhenAble_ask attending
    exact asks.between leading (List.forall_mem_append.2 ⟨presents, cleans⟩) (by decide) (by decide)

private theorem asksWhenAble_work (cat : Catalogue) (server : Server) (colour : Option Bool)
    (settings : Settings Callable) (verb : Verb) (inv : Invocation) (files : Files) :
    AsksWhenAble server (work cat server colour settings verb inv files).trace := by
  have finds := tells_findGrammar cat inv.grammar files
  unfold work
  rcases found : findGrammar cat inv.grammar files with ⟨e | parses, after, early⟩
  · rw [found] at finds
    rw [Act.bind_apply_error found]
    exact .of_other finds (by decide) (by decide)
  · rw [found] at finds
    rw [Act.bind_apply_ok found]
    have asks := asksWhenAble_conduct verb inv server settings after (.new .standard colour) parses
    have none : ∀ e ∈ ([] : Trace), e.Through [.log] := nofun
    have asked := asks.between finds none (by decide) (by decide)
    rwa [List.append_nil] at asked

theorem inStep_conduct_either {sees : Effect → Bool} {P : Settings Callable → Settings Callable → Prop}
    (logs : ∀ r, sees (.log r) = false)
    (reports : ∀ a b, P a b → a.notifyErrors = b.notifyErrors ∨ ∀ text, sees (.err text) = false)
    (displays : ∀ a b, P a b → a.display = b.display) {first second : Settings Callable} (may : P first second)
    (verb : Verb) (inv : Invocation) (server : Server) (files : Files) (colour : Option Bool) (parses : Bool) :
    (conduct verb inv server (.new first files (.new .standard colour) parses)).InStep sees (Akin P)
      (conduct verb inv server (.new second files (.new .standard colour) parses)) := by
  let s : Session := .new first files (.new .standard colour) parses
  let t : Session := .new second files (.new .standard colour) parses
  have led : (lead inv server s).InStep sees (Akin P) (lead inv server t) :=
    inStep_lead logs inv server s t (akin_new may files colour parses)
  rw [conduct_eq]
  refine Act.inStep_bind_at led fun buffer leads => ?_
  obtain ⟨rfl, text, after, left⟩ := lead_succeeded leads
  have attending : Attending (lead inv server s).state server (.number 1) := by
    rw [left]
    exact attending_joined first files after (.new .standard colour) parses inv text server
  refine Act.inStep_ensuring_at ?_ (inStep_cleanUp _)
  rw [converse_eq]
  have asks := inStep_ask_either attending logs reports led.state
  exact Act.inStep_bind_at asks fun _ _ => inStep_present displays verb inv _ _ _ asks.state

/-- Whether hints are asked for by themselves makes no difference to what a command does. It ends in the same way, the
same is done, records in the log apart, and the same hints are kept once the server was asked. Either way the server is
asked for hints once if it could be asked and gives any, and not at all otherwise. -/
theorem enabled_either_way (cat : Catalogue) (server : Server) (colour : Option Bool) (settings : Settings Callable)
    (verb : Verb) (inv : Invocation) (files : Files) :
    let ran (auto : Bool) := work cat server colour { settings with autoEnable := auto } verb inv files
    ((ran true).outcome = (ran false).outcome ∧ (ran true).state = (ran false).state ∧
        (ran true).trace.observed = (ran false).trace.observed) ∧
      (∀ before parses text after,
        let start (auto : Bool) : Session :=
          .new { settings with autoEnable := auto } before (.new .standard colour) parses
        let asks (auto : Bool) := ask server (.number 1) (joined (opening (start auto) inv text) after server)
        (asks true).outcome = (asks false).outcome ∧ (asks true).state.collector = (asks false).state.collector) ∧
      ∀ auto, AsksWhenAble server (ran auto).trace := by
  intro ran
  let P (a b : Settings Callable) : Prop := a.display = b.display ∧ a.notifyErrors = b.notifyErrors
  have may : P { settings with autoEnable := true } { settings with autoEnable := false } := ⟨rfl, rfl⟩
  have logs (r : Log.Record) : (Effect.log r).record?.isNone = false := rfl
  have displays (a b : Settings Callable) (same : P a b) : a.display = b.display := same.1
  have reports (a b : Settings Callable) (same : P a b) :
      a.notifyErrors = b.notifyErrors ∨ ∀ text, (Effect.err text).record?.isNone = false := Or.inl same.2
  refine ⟨?_, ?_, ?_⟩
  · have worked : (ran true).InStep (fun e => e.record?.isNone) Eq (ran false) :=
      inStep_work (fun before parses =>
        inStep_conduct_either logs reports displays may verb inv server before colour parses) files files rfl
    exact ⟨worked.outcome, worked.state, worked.trace⟩
  · intro before parses text after start asks
    have akin : Akin P (joined (opening (start true) inv text) after server)
        (joined (opening (start false) inv text) after server) := ⟨rfl, _, .start, [], may, rfl⟩
    have asked : (asks true).InStep (fun e => e.record?.isNone) (Akin P) (asks false) :=
      inStep_ask_either (attending_joined _ before after _ parses inv text server) logs reports akin
    obtain ⟨-, last, cursor, shown, -, same⟩ := asked.state
    exact ⟨asked.outcome, (congrArg Session.collector same).symm⟩
  · intro auto
    exact asksWhenAble_work cat server colour _ verb inv files

end Command

end HintLine
