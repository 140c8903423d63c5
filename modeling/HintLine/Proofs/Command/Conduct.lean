import HintLine.Command.Run
import HintLine.Proofs.Log.Sinks
import HintLine.Proofs.Session.Turns
import HintLine.Proofs.Settings.Read

/-!
How a command goes: the file is read and opened, the server is started, and only once it is up the conversation with it
begins, which is closed in any case. Until then nothing is closed. Only the conversation prints anything.
-/

set_option autoImplicit false

namespace HintLine

open HintLine.Client (Server)
open HintLine.Effect (Through)
open HintLine.Plugin (Callable Catalogue)

private theorem Plugin.Catalogue.tells_member {σ : Type} (cat : Catalogue) (source : String) :
    (cat.member source : Act σ Plugin.Member).Tells (Through [.log]) := by
  unfold member
  dsimp only
  split
  · exact Act.tells_fail _
  split
  · exact Act.tells_fail _
  · refine (Act.tells_ofExcept _).bind fun m => ?_
    split
    · exact Act.tells_pure _
    · exact (Act.tells_log_through _ _ List.mem_cons_self).bind fun _ => Act.tells_fail _

private theorem Settings.tells_read {σ : Type} (cat : Catalogue) (files : Files) (path : Option Path) :
    (Settings.read cat files path : Act σ (Settings Callable)).Tells (Through [.log]) := by
  have named (path : Path) : (readNamed files path : Act σ (Settings String)).Tells (Through [.log]) := by
    unfold readNamed
    refine (Act.tells_log_through _ _ List.mem_cons_self).bind fun _ => (Act.tells_ofResult _ _).bind fun bytes => ?_
    split
    · exact Act.tells_fail _
    · refine (Act.tells_ofExcept _).bind fun fields => ?_
      split
      · exact (Act.tells_log_through _ _ List.mem_cons_self).bind fun _ => Act.tells_pure _
      · exact Act.tells_ofResult _ _
  have found (name : String) : (findDisplay cat name : Act σ Callable).Tells (Through [.log]) := by
    have attempted : (Act.attempt (cat.member name) : Act σ _).Tells (Through [.log]) := cat.tells_member name
    refine attempted.bind fun outcome => ?_
    split
    · exact Act.tells_pure _
    all_goals exact Act.tells_fail _
  unfold Settings.read
  cases path with
  | none => exact Act.tells_pure _
  | some path =>
    refine (named path).bind fun settings => ?_
    cases settings.display with
    | none => exact (Act.tells_pure _).bind fun _ => Act.tells_ofResult _ _
    | some name => exact ((found name).bind fun _ => Act.tells_pure _).bind fun _ => Act.tells_ofResult _ _

namespace Session

private theorem greeted_iff (client : Ident) (server : Server) (command : String) (root : Path) (s : Session) :
    (∃ uri announces, Effect.call (.handshake uri announces) ∈ (start client server command root s).trace) ↔
      (Client.launch server command root s.files).outcome = .ok () := by
  have launches : (onFiles (Client.launch server command root)).Tells (Through [.starting]) :=
    (tells_launch server command root).zoom _ _
  have same : (onFiles (Client.launch server command root) s).outcome =
      (Client.launch server command root s.files).outcome := rfl
  rw [← same]
  unfold start
  rcases launched : onFiles (Client.launch server command root) s with ⟨e | u, after, trace⟩
  · rw [Act.bind_apply_error launched]
    refine ⟨?_, nofun⟩
    rintro ⟨uri, announces, greeted⟩
    have other : Effect.Channel.greeting ∉ [Effect.Channel.starting] := by
      decide
    have quiet := launches.not_mem (e := .call (.handshake uri announces)) other s
    rw [launched] at quiet
    exact (quiet greeted).elim
  · rw [Act.bind_apply_ok launched]
    dsimp only
    rw [Act.bind_apply_ok (Act.get_apply _)]
    dsimp only
    rw [Act.bind_apply_ok (Act.emit_apply _ _)]
    exact ⟨fun _ => rfl, fun _ => ⟨_, _, List.mem_append_right _ List.mem_cons_self⟩⟩

private theorem outcome_start {client : Ident} {server : Server} {command : String} {root : Path} {s : Session}
    (launched : (Client.launch server command root s.files).outcome = .ok ()) :
    (start client server command root s).outcome = server.handshake := by
  rcases ran : onFiles (Client.launch server command root) s with ⟨outcome, after, trace⟩
  have same : (onFiles (Client.launch server command root) s).outcome =
      (Client.launch server command root s.files).outcome := rfl
  rw [ran, launched] at same
  obtain rfl : outcome = .ok () := same
  unfold start
  rw [Act.bind_apply_ok ran]
  dsimp only
  rw [Act.bind_apply_ok (Act.get_apply _)]
  dsimp only
  rw [Act.bind_apply_ok (Act.emit_apply _ _)]
  dsimp only
  cases server.handshake with
  | error e => rfl
  | ok u => rfl

end Session

namespace Command

open Session (Deed)

theorem tells_prepare (cat : Catalogue) (inv : Invocation) : (prepare cat inv).Tells (Through [.log, .journal]) := by
  unfold prepare
  refine Act.tells_get.bind fun files => ((Settings.tells_read _ _ _).widen (by decide)).bind fun settings => ?_
  exact Act.tells_get.bind fun files => (Log.tells_arrange _ _ _ _).bind fun _ => Act.tells_pure _

theorem tells_findGrammar {σ : Type} (cat : Catalogue) (source : Option String) :
    (findGrammar cat source : Act σ Bool).Tells (Through [.log]) := by
  unfold findGrammar
  cases source with
  | none => exact Act.tells_pure _
  | some source =>
    refine (cat.tells_member source).bind fun member => (Act.tells_ofExcept _).bind fun value => ?_
    split
    · split
      · exact Act.tells_pure _
      · exact Act.tells_fail _
    · exact Act.tells_fail _

theorem tells_cleanUp (buffer : Ident) : (cleanUp buffer).Tells (Through [.log, .closing, .stopping]) := by
  unfold cleanUp
  refine ((Session.tells_closeBuffer buffer).widen (by decide)).bind fun _ => ?_
  exact (Session.tells_stop.widen (by decide)).bind fun _ => Act.tells_modify _

private theorem tells_readText (path : Path) : (readText path).Tells (Through []) := by
  unfold readText
  refine Act.tells_get.bind fun fs => (Act.tells_ofResult _ _).bind fun bytes => ?_
  split
  · exact Act.tells_pure _
  · exact Act.tells_fail _

private theorem readText_apply (path : Path) (s : Session) :
    Session.onFiles (readText path) s = ⟨(readText path s.files).outcome, s, []⟩ := by
  have still : (readText path).Moves Eq := by
    have trans : ∀ f g h : Files, f = g → g = h → f = h := fun _ _ _ => Eq.trans
    unfold readText
    refine (Act.moves_get Eq.refl).bind trans fun fs => ?_
    refine (Act.moves_ofResult Eq.refl _ _).bind trans fun bytes => ?_
    split
    · exact Act.moves_pure Eq.refl _
    · exact Act.moves_fail Eq.refl _
  have silent : (readText path s.files).trace = [] := by
    rw [List.eq_nil_iff_forall_not_mem]
    intro e member
    exact List.not_mem_nil (tells_readText path s.files e member)
  unfold Session.onFiles
  rw [Act.zoom_apply, silent, ← still s.files]

/-- The session in which a file was opened. -/
def opening (s : Session) (inv : Invocation) (text : String) : Session :=
  (Deed.openBuffer (Path.ofString inv.file) text (languageOf inv.languageId (Path.ofString inv.file))).effect s

/-- The directory of the file, in which the server is started. -/
def rootOf (s : Session) (inv : Invocation) : Path := ((Path.ofString inv.file).absolute s.files.cwd).parent

/-- Starting the server, and conversing with it once it is up. -/
def serve (verb : Verb) (inv : Invocation) (server : Server) (root : Path) (buffer : Ident) : Act Session Unit := do
  Session.start clientId server inv.serverCommand root
  Act.ensuring (converse verb inv server buffer) (cleanUp buffer)

/-- The session once the server is up. -/
def joined (s : Session) (files : Files) (server : Server) : Session :=
  { s with files, registry := s.registry.register clientId server.connection }

/-- Asking for hints, which comes before they are shown. -/
def ask (server : Server) (buffer : Ident) : Act Session Unit := do
  Session.attach buffer clientId
  Session.attached buffer clientId
  if !(← Act.get).settings.autoEnable then Session.enable buffer
  await server.answer

theorem converse_eq (verb : Verb) (inv : Invocation) (server : Server) (buffer : Ident) :
    converse verb inv server buffer = ask server buffer >>= fun _ => present verb inv buffer := by
  unfold converse ask
  simp only [bind_assoc]
  refine congrArg _ (funext fun _ => congrArg _ (funext fun _ => congrArg _ (funext fun s => ?_)))
  split
  · rw [bind_assoc]
  · rfl

theorem tells_ask (server : Server) (buffer : Ident) :
    (ask server buffer).Tells (Through [.log, .errors, .telling, .asking, .handling]) := by
  have awaited : (await server.answer).Tells (Through [.log, .errors, .telling, .asking, .handling]) :=
    Act.tells_get.bind fun s => (Session.tells_wait _).widen (by decide)
  unfold ask
  refine ((Session.tells_attach _ _).widen (by decide)).bind fun _ => ?_
  refine ((Session.tells_attached _ _).widen (by decide)).bind fun _ => Act.tells_get.bind fun s => ?_
  split
  · exact ((Session.tells_enable buffer).widen (by decide)).bind fun _ => awaited
  · exact awaited

theorem conduct_of_read (verb : Verb) (inv : Invocation) (server : Server) (s : Session) :
    ∃ t : Trace, (∀ e ∈ t, ∃ record, e = .log record) ∧
      match (readText (Path.ofString inv.file) s.files).outcome with
      | .error e => conduct verb inv server s = ⟨.error e, s, t⟩
      | .ok text =>
        let r := serve verb inv server (rootOf s inv) (.number s.editor.nextId) (opening s inv text)
        conduct verb inv server s = ⟨r.outcome, r.state, t ++ r.trace⟩ := by
  have announces : ∃ r, Session.announce s = ⟨.ok (), s, [.log r]⟩ := ⟨_, rfl⟩
  obtain ⟨record, announced⟩ := announces
  unfold conduct
  rw [Act.bind_apply_ok announced]
  dsimp only
  have reads := readText_apply (Path.ofString inv.file) s
  cases reading : (readText (Path.ofString inv.file) s.files).outcome with
  | error e =>
    rw [reading] at reads
    rw [Act.bind_apply_error reads]
    exact ⟨[.log record], fun e member => ⟨record, List.mem_singleton.1 member⟩, rfl⟩
  | ok text =>
    rw [reading] at reads
    rw [Act.bind_apply_ok reads]
    dsimp only
    rw [Act.bind_apply_ok (Session.openBuffer_apply _ text _ s)]
    dsimp only
    rw [Act.bind_apply_ok (Act.get_apply _)]
    refine ⟨[.log record] ++ [.log _], ?_, rfl⟩
    intro e member
    rcases List.mem_append.1 member with first | second
    · exact ⟨_, List.mem_singleton.1 first⟩
    · exact ⟨_, List.mem_singleton.1 second⟩

/-- How serving goes: the server does not come up, or the two converse, and what was opened is closed whatever comes of
that. Until then nothing changes but the files, and that the client is there. -/
theorem serve_cases (verb : Verb) (inv : Invocation) (server : Server) (root : Path) (buffer : Ident) (s : Session) :
    ∃ files t, (∀ e ∈ t, e.Through [.log, .starting, .greeting]) ∧
      ((∃ e, (∀ uri announces, Effect.call (.handshake uri announces) ∈ t → server.handshake = .error e) ∧
          serve verb inv server root buffer s = ⟨.error e, { s with files }, t⟩) ∨
        server.handshake = .ok () ∧
          let r := Act.ensuring (converse verb inv server buffer) (cleanUp buffer) (joined s files server)
          serve verb inv server root buffer s = ⟨r.outcome, r.state, t ++ r.trace⟩) := by
  obtain ⟨files, ended⟩ := Session.start_cases clientId server inv.serverCommand root s
  have told := Session.tells_start clientId server inv.serverCommand root s
  have greeted (uri : String) (announces : Bool)
      (member : Effect.call (.handshake uri announces) ∈
        (Session.start clientId server inv.serverCommand root s).trace) :
      (Session.start clientId server inv.serverCommand root s).outcome = server.handshake :=
    Session.outcome_start ((Session.greeted_iff clientId server inv.serverCommand root s).1 ⟨uri, announces, member⟩)
  unfold serve
  rcases started : Session.start clientId server inv.serverCommand root s with ⟨outcome, after, t⟩
  rw [started] at ended told greeted
  refine ⟨files, t, told, ?_⟩
  rcases ended with ⟨greets, done, left⟩ | ⟨⟨e, failed⟩, left⟩
  · obtain rfl : outcome = .ok () := done
    obtain rfl : after = _ := left
    rw [Act.bind_apply_ok started]
    exact Or.inr ⟨greets, rfl⟩
  · obtain rfl : outcome = .error e := failed
    obtain rfl : after = _ := left
    rw [Act.bind_apply_error started]
    exact Or.inl ⟨e, fun uri announces member => (greeted uri announces member).symm, rfl⟩

theorem greeted_conduct {verb : Verb} {inv : Invocation} {server : Server} {s : Session} {text : String}
    (reading : (readText (Path.ofString inv.file) s.files).outcome = .ok text)
    (launched : (Client.launch server inv.serverCommand (rootOf s inv) s.files).outcome = .ok ()) :
    ∃ uri announces, Effect.call (.handshake uri announces) ∈ (conduct verb inv server s).trace := by
  obtain ⟨t, -, conducted⟩ := conduct_of_read verb inv server s
  rw [reading] at conducted
  dsimp only at conducted
  obtain ⟨uri, announces, greeted⟩ :=
    (Session.greeted_iff clientId server inv.serverCommand (rootOf s inv) (opening s inv text)).2 launched
  refine ⟨uri, announces, ?_⟩
  rw [conducted]
  refine List.mem_append_right _ ?_
  unfold serve
  rcases started : Session.start clientId server inv.serverCommand (rootOf s inv) (opening s inv text) with
    ⟨e | u, after, trace⟩
  · rw [started] at greeted
    rw [Act.bind_apply_error started]
    exact greeted
  · rw [started] at greeted
    rw [Act.bind_apply_ok started]
    exact List.mem_append_left _ greeted

theorem outcome_conduct {verb : Verb} {inv : Invocation} {server : Server} {s : Session} {text : String}
    (reading : (readText (Path.ofString inv.file) s.files).outcome = .ok text)
    (launched : (Client.launch server inv.serverCommand (rootOf s inv) s.files).outcome = .ok ())
    (greets : server.handshake = .ok ()) :
    ∃ files,
      let buffer : Ident := .number s.editor.nextId
      let up := joined (opening s inv text) files server
      (conduct verb inv server s).outcome =
        (Act.ensuring (converse verb inv server buffer) (cleanUp buffer) up).outcome := by
  obtain ⟨uri, announces, greeted⟩ :
      ∃ uri announces, Effect.call (.handshake uri announces) ∈ (conduct verb inv server s).trace :=
    greeted_conduct reading launched
  obtain ⟨t, logs, conducted⟩ := conduct_of_read verb inv server s
  rw [reading] at conducted
  dsimp only at conducted
  obtain ⟨files, u, -, served⟩ :=
    serve_cases verb inv server (rootOf s inv) (.number s.editor.nextId) (opening s inv text)
  rcases served with ⟨e, refused, ran⟩ | ⟨-, ran⟩
  · rw [ran] at conducted
    rw [conducted] at greeted
    rcases List.mem_append.1 greeted with early | member
    · obtain ⟨record, same⟩ := logs _ early
      cases same
    · rw [greets] at refused
      cases refused uri announces member
  · rw [ran] at conducted
    refine ⟨files, ?_⟩
    rw [conducted]

/-- What leads up to a conversation; it ends in the buffer in which the file is open. -/
def lead (inv : Invocation) (server : Server) : Act Session Ident := do
  Session.announce
  let path := Path.ofString inv.file
  let text ← Session.onFiles (readText path)
  let b ← Session.openBuffer path text (languageOf inv.languageId path)
  let root := (path.absolute (← Act.get).files.cwd).parent
  Session.start clientId server inv.serverCommand root
  return b.ident

theorem conduct_eq (verb : Verb) (inv : Invocation) (server : Server) :
    conduct verb inv server =
      lead inv server >>= fun buffer => Act.ensuring (converse verb inv server buffer) (cleanUp buffer) := by
  unfold conduct lead
  simp only [bind_assoc, pure_bind]

theorem tells_lead (inv : Invocation) (server : Server) :
    (lead inv server).Tells (Through [.log, .starting, .greeting]) := by
  have announced : Session.announce.Tells (Through [.log, .starting, .greeting]) :=
    Act.tells_get.bind fun s => Act.tells_log_through _ _ List.mem_cons_self
  have opened (path : Path) (text languageId : String) :
      (Session.openBuffer path text languageId).Tells (Through [.log, .starting, .greeting]) := by
    intro s e member
    rw [Session.openBuffer_apply] at member
    rw [List.mem_singleton.1 member]
    exact List.mem_cons_self
  unfold lead
  refine announced.bind fun _ => (((tells_readText _).widen (by simp)).zoom _ _).bind fun text => ?_
  refine (opened _ _ _).bind fun b => Act.tells_get.bind fun s => ?_
  exact (Session.tells_start _ _ _ _).bind fun _ => Act.tells_pure _

theorem lead_succeeded {inv : Invocation} {server : Server} {s : Session} {buffer : Ident}
    (done : (lead inv server s).outcome = .ok buffer) :
    buffer = .number s.editor.nextId ∧
      ∃ text files, (lead inv server s).state = joined (opening s inv text) files server := by
  obtain ⟨record, announced⟩ : ∃ r, Session.announce s = ⟨.ok (), s, [.log r]⟩ := ⟨_, rfl⟩
  have reads := readText_apply (Path.ofString inv.file) s
  unfold lead at done ⊢
  rw [Act.bind_apply_ok announced] at done ⊢
  dsimp only at done ⊢
  cases reading : (readText (Path.ofString inv.file) s.files).outcome with
  | error e =>
    rw [reading] at reads
    rw [Act.bind_apply_error reads] at done
    cases done
  | ok text =>
    rw [reading] at reads
    rw [Act.bind_apply_ok reads] at done ⊢
    dsimp only at done ⊢
    rw [Act.bind_apply_ok (Session.openBuffer_apply _ text _ s)] at done ⊢
    dsimp only at done ⊢
    rw [Act.bind_apply_ok (Act.get_apply _)] at done ⊢
    dsimp only at done ⊢
    obtain ⟨u, starts, same, ran⟩ := Act.bind_succeeded done
    obtain rfl := Except.ok.inj same
    obtain ⟨files, ⟨-, -, left⟩ | ⟨⟨e, failed⟩, -⟩⟩ :=
      Session.start_cases clientId server inv.serverCommand (rootOf s inv) (opening s inv text)
    · refine ⟨rfl, text, files, ?_⟩
      rw [ran]
      exact left
    · cases starts.symm.trans failed

theorem conduct_of_lead {inv : Invocation} {server : Server} {s : Session} {buffer : Ident}
    (leads : (lead inv server s).outcome = .ok buffer) (verb : Verb) :
    let talked := converse verb inv server buffer (lead inv server s).state
    ((conduct verb inv server s).outcome = .ok () ↔
        talked.outcome = .ok () ∧ (cleanUp buffer talked.state).outcome = .ok ()) ∧
      (conduct verb inv server s).trace.output = talked.trace.output := by
  intro talked
  have early : (lead inv server s).trace.output = "" := Trace.output_eq_empty (tells_lead inv server s) (by decide)
  have late : (cleanUp buffer talked.state).trace.output = "" :=
    Trace.output_eq_empty (tells_cleanUp buffer talked.state) (by decide)
  have led : lead inv server s = ⟨.ok buffer, (lead inv server s).state, (lead inv server s).trace⟩ := by
    rw [← leads]
  rw [conduct_eq, Act.bind_apply_ok led]
  dsimp only
  constructor
  · cases cleaned : (cleanUp buffer talked.state).outcome with
    | error e =>
      rw [Act.ensuring_apply_error cleaned]
      simp
    | ok u =>
      rw [Act.ensuring_apply_ok cleaned]
      simp [talked]
  · rw [Act.trace_ensuring, Trace.output_append, Trace.output_append, early, late, String.append_empty,
      String.empty_append]

private theorem conduct_succeeded {verb : Verb} {inv : Invocation} {server : Server} {s : Session}
    (done : (conduct verb inv server s).outcome = .ok ()) :
    ∃ text files,
      let r := converse verb inv server (.number s.editor.nextId) (joined (opening s inv text) files server)
      r.outcome = .ok () ∧ (conduct verb inv server s).trace.output = r.trace.output := by
  have begun := done
  rw [conduct_eq] at begun
  obtain ⟨buffer, leads, -, -⟩ := Act.bind_succeeded begun
  obtain ⟨ends, printed⟩ := conduct_of_lead leads verb
  obtain ⟨rfl, text, files, led⟩ := lead_succeeded leads
  rw [led] at ends printed
  exact ⟨text, files, (ends.1 done).1, printed⟩

theorem work_of_found {cat : Catalogue} {inv : Invocation} {files : Files} {parses : Bool}
    (found : (findGrammar cat inv.grammar files).outcome = .ok parses) (server : Server) (colour : Option Bool)
    (settings : Settings Callable) (verb : Verb) :
    let before := (findGrammar cat inv.grammar files).state
    let conducted := conduct verb inv server (.new settings before (.new .standard colour) parses)
    (work cat server colour settings verb inv files).outcome = conducted.outcome ∧
      (work cat server colour settings verb inv files).trace.output = conducted.trace.output := by
  intro before conducted
  have quiet : (findGrammar cat inv.grammar files).trace.output = "" :=
    Trace.output_eq_empty (tells_findGrammar cat inv.grammar files) (by decide)
  have finds : findGrammar cat inv.grammar files = ⟨.ok parses, before, (findGrammar cat inv.grammar files).trace⟩ := by
    rw [← found]
  unfold work
  rw [Act.bind_apply_ok finds]
  refine ⟨rfl, ?_⟩
  dsimp only
  rw [Trace.output_append, quiet, String.empty_append]
  rfl

theorem work_succeeded {cat : Catalogue} {server : Server} {colour : Option Bool} {verb : Verb}
    {inv : Invocation} {files : Files} {settings : Settings Callable}
    (done : (work cat server colour settings verb inv files).outcome = .ok ()) :
    ∃ before parses text after,
      let start := Session.new settings before (.new .standard colour) parses
      let r := converse verb inv server (.number 1) (joined (opening start inv text) after server)
      r.outcome = .ok () ∧ (work cat server colour settings verb inv files).trace.output = r.trace.output := by
  have begun := done
  unfold work at begun
  obtain ⟨parses, found, -, -⟩ := Act.bind_succeeded begun
  obtain ⟨ends, printed⟩ := work_of_found found server colour settings verb
  obtain ⟨text, after, talked, same⟩ := conduct_succeeded (ends.symm.trans done)
  exact ⟨_, parses, text, after, talked, printed.trans same⟩

/-- The file `a` alone, in an otherwise empty file system. -/
def desk : Files := ⟨[(["a"], [120])], [], []⟩

/-- A command on that file. -/
def asking : Invocation := { Invocation.blank with file := "a", serverCommand := "srv" }

/-- The session that the command begins with. -/
def outset : Session := .new .standard desk (.new .standard none) false

theorem readText_desk : (readText (Path.ofString asking.file) desk).outcome = .ok "x" := by
  have found : desk.read (Path.ofString asking.file) = .ok [120] := by
    unfold Files.read
    rw [Files.find_eq desk (show (Path.ofString asking.file).text = "a" from rfl) (by decide)]
    rfl
  unfold readText
  rw [Act.bind_apply_ok (Act.get_apply _)]
  dsimp only
  rw [found]
  rfl

theorem launch_desk {server : Server} (launches : server.launch = .ok ()) :
    (Client.launch server asking.serverCommand (rootOf outset asking) desk).outcome = .ok () := by
  have entered : desk.enter (rootOf outset asking) = .ok [] := by
    unfold Files.enter
    rw [Files.find_eq desk (show (rootOf outset asking).text = "/" from rfl) (by decide)]
    rfl
  have words : Shell.Words.split asking.serverCommand = .ok ["srv"] := by
    decide
  unfold Client.launch
  rw [Act.bind_apply_ok (Act.emit_apply _ _)]
  dsimp only
  rw [words]
  rw [Act.bind_apply_ok (Act.ofResult_ok_apply _ _ desk)]
  dsimp only
  unfold Files.within
  rw [Act.bind_apply_ok (Act.get_apply _), Act.bind_apply_ok (Act.get_apply _), entered]
  rw [Act.bind_apply_ok (Act.ofResult_ok_apply _ _ desk)]
  dsimp only
  rw [Act.bind_apply_ok (Act.modify_apply _ _)]
  dsimp only
  rw [launches]
  rfl

end Command

end HintLine
