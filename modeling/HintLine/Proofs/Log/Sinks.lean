import HintLine.Log.SetUp
import HintLine.Proofs.Session.Effects

/-!
Where log records go. The log is set up any number of times, and between that records are logged, by this library and by
another one. Each set-up takes the place of the one before it, so what is logged is written to the sink of the latest
set-up, once, or nowhere; nothing of it is printed. Where a set-up fails there is no sink until the next one.
-/

set_option autoImplicit false

namespace HintLine

open Effect (Through)

namespace Log

/-- A sink that takes records from a level on, if there is a sink and the level is not refused. -/
def Handler.of? (sink : Option Sink) (level : LevelChoice) : Option Handler :=
  match sink, level.level with
  | some sink, .ok l => some ⟨sink, l.severity⟩
  | _, _ => none

/-- What a set-up is asked for, and the files as they are then. -/
structure Request where
  files : Files
  file : Option String
  level : LevelChoice
  console : Bool

namespace Request

/-- The sink that is asked for: the file if one is named, and else the console if that is asked for. There is none if the
file cannot be opened. -/
def sink? (q : Request) : Option Sink :=
  match q.file with
  | some name => (LogFile.ofName q.files name).toOption.map fun file => .file file.path
  | none => if q.console then some .console else none

/-- The sink that is asked for with the severity from which on it takes records. There is none if the level is refused. -/
def handler? (q : Request) : Option Handler := Handler.of? q.sink? q.level

/-- What is written of a record, if there is one, while this is the latest request. -/
def writes (q : Request) (record : Option Record) : List (Sink × Record) :=
  match q.handler?, record with
  | some h, some r => if h.threshold ≤ r.level.severity then [(h.sink, r)] else []
  | _, _ => []

private theorem writes_of_none {q : Request} (none : q.handler? = none) (record : Option Record) :
    q.writes record = [] := by
  simp only [writes, none]

private theorem writes_none (q : Request) : q.writes none = [] := by
  cases handler : q.handler? <;> simp [writes, handler]

end Request

/-- What is done to the log: it is set up anew, or something is logged, by this library or by another one. -/
inductive Step where
  | setUp (q : Request)
  | own (level : LevelChoice) (message : String)
  | foreign (name : String) (level : Int) (template : String) (args : List Value)

namespace Step

/-- What a step does while a journal is in place. -/
def act (j : Journal) : Step → Act Unit Unit
  | setUp q => arrange q.files q.file q.level q.console
  | own level message => Log.own j level message
  | foreign name level template args => foreignAs name level template args

def request? : Step → Option Request
  | setUp q => some q
  | _ => none

/-- The record that a step makes. A set-up for a file says which one it is; a level that is refused, a level of another
library that is not positive, and a template that its arguments do not fit make none. -/
def record? : Step → Option Record
  | setUp q => q.file.map fun name => ⟨.info, s!"Log file: {name}"⟩
  | own level message => level.level.toOption.map (⟨·, message⟩)
  | foreign name level template args =>
    if level ≤ 0 then none else (Template.message template args).toOption.map (⟨.ofForeign name level, ·⟩)

end Step

/-- The last set-up among some steps. -/
def latest? (steps : List Step) : Option Request := (steps.filterMap Step.request?).getLast?

namespace Journal

/-- The journal after an event. -/
def next (j : Journal) : Event → Journal
  | .setUp s => j.reset s
  | .record _ | .foreign _ => j

/-- The journal after a run. -/
def through (j : Journal) (t : Trace) : Journal := (t.filterMap Effect.journalEvent?).foldl next j

/-- What is seen of steps that are taken one after the other. One that fails does not keep the others from being taken. -/
def play (j : Journal) : List Step → Trace
  | [] => []
  | p :: steps =>
    let t := (p.act j ()).trace
    t ++ play (j.through t) steps

/-- All that some steps write, in order, with the sink that it is written to. -/
def writtenBy (j : Journal) (steps : List Step) : List (Sink × Record) := (j.play steps).journalled j

/-- The journal that some steps leave. -/
def left (j : Journal) (steps : List Step) : Journal := j.through (j.play steps)

private theorem written_append (j : Journal) (first second : List Event) :
    j.written (first ++ second) = j.written first ++ (first.foldl next j).written second := by
  induction first generalizing j with
  | nil => rfl
  | cons e first ih =>
    cases e with
    | setUp s => exact ih (j.reset s)
    | record r | foreign r =>
      rw [List.cons_append, written, written, ih, List.append_assoc]
      rfl

private theorem through_append (j : Journal) (t u : Trace) : j.through (t ++ u) = (j.through t).through u := by
  rw [through, List.filterMap_append, List.foldl_append]
  rfl

private theorem journalled_append (j : Journal) (t u : Trace) :
    (t ++ u).journalled j = t.journalled j ++ u.journalled (j.through t) := by
  rw [Trace.journalled, List.filterMap_append, written_append]
  rfl

private theorem play_append (j : Journal) (first second : List Step) :
    j.play (first ++ second) = j.play first ++ (j.left first).play second := by
  induction first generalizing j with
  | nil => rfl
  | cons p first ih =>
    rw [List.cons_append, play, ih, left, left, play, ← List.append_assoc, through_append]

private theorem writtenBy_append (j : Journal) (first second : List Step) :
    j.writtenBy (first ++ second) = j.writtenBy first ++ (j.left first).writtenBy second := by
  rw [writtenBy, play_append, journalled_append]
  rfl

/-- A journal with a handler, or with none, and with one relay. -/
def ofHandler? (h : Option Handler) : Journal := ⟨h.toList, 1⟩

private theorem reset_eq (j : Journal) (s : Setup) : j.reset s = ofHandler? (Handler.of? s.sink? s.level) := by
  unfold reset Handler.of?
  cases s.sink? with
  | none => rfl
  | some sink => cases s.level.level <;> rfl

private theorem entries_ofHandler? (q : Request) (r : Record) :
    (ofHandler? q.handler?).entries r = q.writes (some r) := by
  unfold entries sinks ofHandler? Request.writes
  cases q.handler? with
  | none => rfl
  | some h => by_cases takes : h.threshold ≤ r.level.severity <;> simp [Handler.takes, takes]

private theorem journalled_log (q : Request) (r : Record) :
    Trace.journalled [.log r] (ofHandler? q.handler?) = q.writes (some r) :=
  (List.append_nil _).trans (entries_ofHandler? q r)

private theorem journalled_foreign (q : Request) (r : Record) :
    Trace.journalled [.foreign r] (ofHandler? q.handler?) = q.writes (some r) :=
  (List.append_nil _).trans ((List.append_nil _).trans (entries_ofHandler? q r))

private theorem trace_setUp (s : Setup) : ((setUp s : Act Unit Unit) ()).trace =
    .journal s :: match ofSetup s, s.file with
      | .ok _, some file => [.log ⟨.info, s!"Log file: {file.name}"⟩]
      | _, _ => [] := by
  unfold setUp
  rw [Act.bind_apply_ok (Act.emit_apply _ ())]
  cases ofSetup s with
  | error e => rfl
  | ok j => cases s.file <;> rfl

private theorem name_of_ofName {files : Files} {name : String} {file : LogFile}
    (opened : LogFile.ofName files name = .ok file) : file.name = name := by
  unfold LogFile.ofName at opened
  cases resolved : FileName.resolve name with
  | error e =>
    rw [resolved] at opened
    cases opened
  | ok path =>
    cases writes : files.writable (Path.ofString path) with
    | error e =>
      simp only [resolved, writes, Except.mapError, Except.bind, Except.map] at opened
      cases opened
    | ok place =>
      simp only [resolved, writes, Except.mapError, Except.bind, Except.map] at opened
      rw [← Except.ok.inj opened]

private theorem setUp_spec {s : Setup} {q : Request} (same : Handler.of? s.sink? s.level = q.handler?) (j : Journal) :
    let t := ((setUp s : Act Unit Unit) ()).trace
    j.through t = ofHandler? q.handler? ∧
      t.journalled j = q.writes (s.file.map fun file => ⟨.info, s!"Log file: {file.name}"⟩) := by
  have made : j.reset s = ofHandler? q.handler? := by rw [reset_eq, same]
  dsimp only
  rw [trace_setUp]
  cases set : ofSetup s with
  | error e =>
    have none : q.handler? = none := by
      have handlers := congrArg Journal.handlers made
      rw [reset_eq_after, after, set] at handlers
      exact Option.toList_eq_nil_iff.1 handlers.symm
    rw [Request.writes_of_none none]
    exact ⟨made, rfl⟩
  | ok k =>
    cases s.file with
    | none =>
      rw [Option.map_none, Request.writes_none]
      exact ⟨made, rfl⟩
    | some file =>
      rw [Option.map_some, ← journalled_log, ← made]
      exact ⟨rfl, rfl⟩

private theorem arrange_spec (q : Request) (j : Journal) :
    let t := ((Step.setUp q).act j ()).trace
    j.through t = ofHandler? q.handler? ∧ t.journalled j = q.writes (Step.setUp q).record? := by
  obtain ⟨files, file, level, console⟩ := q
  cases file with
  | none => exact setUp_spec (s := ⟨none, level, console⟩) rfl j
  | some name =>
    cases opened : LogFile.ofName files name with
    | ok file =>
      have same : Handler.of? (Setup.sink? ⟨some file, level, false⟩) level =
          (⟨files, some name, level, console⟩ : Request).handler? := by
        simp only [Request.handler?, Request.sink?, opened, Except.toOption, Option.map_some, Setup.sink?]
      have set := setUp_spec same j
      simp only [Option.map_some, name_of_ofName opened] at set
      simpa only [Step.act, arrange, setUpFile, opened, Step.record?, Option.map_some] using set
    | error e =>
      have none : (⟨files, some name, level, console⟩ : Request).handler? = none := by
        simp only [Request.handler?, Request.sink?, opened, Except.toOption, Option.map_none, Handler.of?]
      have trace : ((Step.setUp ⟨files, some name, level, console⟩).act j ()).trace = [.journal .nothing] := by
        simp only [Step.act, arrange, setUpFile, opened]
        rfl
      dsimp only
      rw [trace, Request.writes_of_none none, none]
      exact ⟨rfl, rfl⟩

private theorem trace_own (j : Journal) (level : LevelChoice) (message : String) :
    ((Log.own j level message : Act Unit Unit) ()).trace =
      if j.handlers.isEmpty then [] else ((Step.own level message).record?.map Effect.log).toList := by
  unfold Log.own
  dsimp only [Step.record?]
  split
  · rfl
  · cases level.level <;> rfl

private theorem trace_foreignAs (name : String) (level : Int) (template : String) (args : List Value) :
    ((foreignAs name level template args : Act Unit Unit) ()).trace =
      ((Step.foreign name level template args).record?.map Effect.foreign).toList := by
  unfold foreignAs Record.ofForeign?
  dsimp only [Step.record?]
  split
  · rfl
  · cases Template.message template args <;> rfl

private theorem record_spec {p : Step} (record : p.request? = none) (j : Journal) :
    let t := (p.act j ()).trace
    j.through t = j ∧ ∀ q : Request, j = ofHandler? q.handler? → t.journalled j = q.writes p.record? := by
  have made {effect : Record → Effect} (kept : ∀ r, j.through [effect r] = j)
      (written : ∀ q r, Trace.journalled [effect r] (ofHandler? (Request.handler? q)) = q.writes (some r))
      (r : Option Record) : j.through (r.map effect).toList = j ∧
        ∀ q : Request, j = ofHandler? q.handler? → Trace.journalled (r.map effect).toList j = q.writes r := by
    cases r with
    | none => exact ⟨rfl, fun q _ => (Request.writes_none q).symm⟩
    | some r =>
      refine ⟨kept r, ?_⟩
      rintro q rfl
      exact written q r
  cases p with
  | setUp q => cases record
  | own level message =>
    dsimp only [Step.act]
    rw [trace_own]
    split
    next empty =>
      -- Nobody listens, so a level is not even looked at.
      refine ⟨rfl, ?_⟩
      rintro q rfl
      have none : q.handler? = none := by simpa [ofHandler?] using empty
      rw [Request.writes_of_none none]
      rfl
    next => exact made (fun _ => rfl) journalled_log _
  | foreign name level template args =>
    dsimp only [Step.act]
    rw [trace_foreignAs]
    exact made (fun _ => rfl) journalled_foreign _

end Journal

private theorem latest?_append (first second : List Step) :
    latest? (first ++ second) = (latest? second).or (latest? first) := by
  rw [latest?, List.filterMap_append, List.getLast?_append]
  rfl

private theorem latest?_singleton (p : Step) : latest? [p] = p.request? := by cases p <;> rfl

namespace Journal

/-- After some steps the handler of the latest set-up is in place, and no other one; without any set-up the journal is as
it was. -/
private theorem left_eq (j : Journal) (steps : List Step) :
    j.left steps = (latest? steps).elim j fun q => ofHandler? q.handler? := by
  induction steps generalizing j with
  | nil => rfl
  | cons p steps ih =>
    have first : j.through (p.act j ()).trace = p.request?.elim j fun q => ofHandler? q.handler? := by
      cases request : p.request? with
      | none => exact (record_spec request j).1
      | some q =>
        cases p with
        | setUp q' =>
          obtain rfl := Option.some.inj request
          exact (arrange_spec q' j).1
        | own | foreign => cases request
    rw [left, play, through_append]
    change (j.through (p.act j ()).trace).left steps = _
    rw [ih, first, ← List.singleton_append, latest?_append, latest?_singleton]
    cases latest? steps <;> rfl

private theorem writtenBy_singleton (j : Journal) {before : List Step} {p : Step} {q : Request}
    (latest : latest? (before ++ [p]) = some q) : (j.left before).writtenBy [p] = q.writes p.record? := by
  rw [latest?_append, latest?_singleton] at latest
  have alone (k : Journal) : k.writtenBy [p] = (p.act k ()).trace.journalled k := by
    rw [writtenBy, play, play, List.append_nil]
  rw [alone]
  cases request : p.request? with
  | none =>
    rw [request, Option.none_or] at latest
    refine (record_spec request _).2 q ?_
    rw [left_eq, latest]
    rfl
  | some q' =>
    rw [request, Option.some_or] at latest
    obtain rfl := Option.some.inj latest
    cases p with
    | setUp _ =>
      obtain rfl := Option.some.inj request
      exact (arrange_spec _ _).2
    | own | foreign => cases request

private theorem writtenBy_setUp (j : Journal) (q : Request) :
    j.writtenBy [.setUp q] = q.writes (q.file.map fun name => ⟨.info, s!"Log file: {name}"⟩) :=
  @writtenBy_singleton j [] (.setUp q) q rfl

private theorem writtenBy_concat (j : Journal) {before : List Step} {p : Step} {q : Request}
    (latest : latest? (before ++ [p]) = some q) :
    j.writtenBy (before ++ [p]) = j.writtenBy before ++ q.writes p.record? := by
  rw [j.writtenBy_append, j.writtenBy_singleton latest]

end Journal

theorem tells_arrange {σ : Type} (files : Files) (file : Option String) (level : LevelChoice) (console : Bool) :
    (arrange files file level console : Act σ Unit).Tells (Through [.log, .journal]) := by
  have journal (x : Setup) : (setUp x : Act σ Unit).Tells (Through [.log, .journal]) := by
    unfold setUp
    refine (Act.tells_emit_through .journal rfl (by decide)).bind fun _ => ?_
    split
    · exact Act.tells_fail _
    · split
      · exact Act.tells_log_through _ _ List.mem_cons_self
      · exact Act.tells_pure _
  unfold arrange
  split
  · unfold setUpFile
    split
    · exact (Act.tells_emit_through .journal rfl (by decide)).bind fun _ => Act.tells_fail _
    · exact journal _
  · exact journal _

private theorem Step.tells_act (j : Journal) (p : Step) : (p.act j).Tells (Through [.log, .journal]) := by
  have logged {effect : Record → Effect} (channel : ∀ r, (effect r).channel = .log) (r : Option Record) :
      ∀ e ∈ (r.map effect).toList, e.Through [.log, .journal] := by
    intro e member
    cases r with
    | none => cases member
    | some r =>
      obtain rfl := List.mem_singleton.1 member
      rw [Through, channel]
      exact List.mem_cons_self
  cases p with
  | setUp q => exact tells_arrange _ _ _ _
  | own level message =>
    intro _
    dsimp only [act]
    rw [Journal.trace_own]
    split
    · exact nofun
    · exact logged (fun _ => rfl) _
  | foreign name level template args =>
    intro _
    dsimp only [act]
    rw [Journal.trace_foreignAs]
    exact logged (fun _ => rfl) _

private theorem Journal.output_play (j : Journal) (steps : List Step) : (j.play steps).output = "" := by
  induction steps generalizing j with
  | nil => rfl
  | cons p steps ih =>
    rw [play, Trace.output_append, Trace.output_eq_empty (p.tells_act j ()) (by decide), ih]
    rfl

/-- The record of a step is written where the latest set-up says: to the sink that this asked for, once, if there is one
and it takes records that severe, and else nowhere. What was written before stays as it was, what comes later is written
as if there had been no other set-up, and nothing is printed. -/
theorem written_to_latest (j : Journal) (before after : List Step) (p : Step) {q : Request}
    (latest : latest? (before ++ [p]) = some q) :
    j.writtenBy (before ++ p :: after) =
        j.writtenBy before ++ q.writes p.record? ++ (Journal.ofHandler? q.handler?).writtenBy after ∧
      (j.play (before ++ p :: after)).output = "" := by
  have left : j.left (before ++ [p]) = Journal.ofHandler? q.handler? := by
    rw [Journal.left_eq, latest]
    rfl
  refine ⟨?_, j.output_play _⟩
  calc j.writtenBy (before ++ p :: after)
      = j.writtenBy (before ++ [p] ++ after) := by rw [List.append_assoc, List.singleton_append]
    _ = j.writtenBy (before ++ [p]) ++ (Journal.ofHandler? q.handler?).writtenBy after := by
        rw [j.writtenBy_append, left]
    _ = j.writtenBy before ++ q.writes p.record? ++ (Journal.ofHandler? q.handler?).writtenBy after := by
        rw [j.writtenBy_concat latest]

/-- The file `a` alone, in an otherwise empty file system. -/
private def shelf : Files := ⟨[(["a"], [])], [], []⟩

private theorem checkName_shelf : Files.checkName [] "a" = .ok () := by
  have ends : Files.isEndless "a" = false := by simp [Files.isEndless]
  unfold Files.checkName
  rw [ends]
  rfl

private theorem ofName_shelf : LogFile.ofName shelf "a" = .ok ⟨"a", "/a"⟩ := by
  have walked : shelf.checkWriting [] ["a"] = .ok () := by
    unfold Files.checkWriting
    rw [checkName_shelf]
    rfl
  have steps : Path.settled ((Path.ofString "a").absolute shelf.cwd).parts = ["a"] := by decide
  have place : shelf.writable (Path.ofString "a") = .ok "/a" := by
    unfold Files.writable
    dsimp only
    rw [steps, walked]
    rfl
  have named : FileName.resolve "a" = .ok "a" := by decide
  simp only [LogFile.ofName, named, place, Except.mapError, Except.bind, Except.map]

private theorem ofName_below : LogFile.ofName shelf "a/x" = .error (.file (.inTheWay "/a")) := by
  have walked : shelf.checkWriting [] ["a", "x"] = .error (.inTheWay "/a") := by
    unfold Files.checkWriting
    rw [checkName_shelf]
    rfl
  have steps : Path.settled ((Path.ofString "a/x").absolute shelf.cwd).parts = ["a", "x"] := by decide
  have place : shelf.writable (Path.ofString "a/x") = .error (.inTheWay "/a") := by
    unfold Files.writable
    dsimp only
    rw [steps, walked]
    rfl
  have named : FileName.resolve "a/x" = .ok "a/x" := by decide
  simp only [LogFile.ofName, named, place, Except.mapError, Except.bind, Except.map]

private theorem handler_shelf (level : LevelChoice) (console : Bool) :
    (⟨shelf, some "a", level, console⟩ : Request).handler? = Handler.of? (some (.file "/a")) level := by
  simp only [Request.handler?, Request.sink?, ofName_shelf, Except.toOption, Option.map_some]

/-- The name that the other library has for the level counts, and not its number. -/
theorem written_to_latest_named :
    let file : Request := ⟨shelf, some "a", .name "DEBUG", true⟩
    let console : Request := ⟨shelf, none, .name "WARNING", true⟩
    let p : Step := .foreign "ERROR" 3 "m" []
    latest? ([.setUp file, .setUp console] ++ [p]) = some console ∧
      Journal.initial.writtenBy [.setUp file, .setUp console, p, .own (.name "INFO") "n"] =
        [(.file "/a", ⟨.info, "Log file: a"⟩), (.console, ⟨.error, "m"⟩)] ∧
      (Journal.initial.play [.setUp file, .setUp console, p, .own (.name "INFO") "n"]).output = "" := by
  intro file console p
  have latest : latest? ([.setUp file, .setUp console] ++ [p]) = some console := rfl
  have first : Journal.initial.writtenBy [.setUp file] = [(.file "/a", ⟨.info, "Log file: a"⟩)] := by
    rw [Journal.writtenBy_setUp]
    unfold Request.writes
    rw [handler_shelf]
    rfl
  have second : Journal.initial.writtenBy [.setUp file, .setUp console] = [(.file "/a", ⟨.info, "Log file: a"⟩)] := by
    rw [← List.singleton_append, Journal.writtenBy_concat _ rfl, first]
    rfl
  have last : (Journal.ofHandler? console.handler?).writtenBy [.own (.name "INFO") "n"] = [] := rfl
  obtain ⟨written, printed⟩ :=
    written_to_latest .initial [.setUp file, .setUp console] [.own (.name "INFO") "n"] p latest
  refine ⟨latest, written.trans ?_, printed⟩
  rw [second, last]
  rfl

/-- A record is not always written where the severity of its level is reached. The other library makes no record where
the arguments do not fit the template, and none at zero, whatever name it has for that; and a file that cannot be opened
leaves no sink. -/
theorem unwritten_despite_severity :
    let file (name : String) : Step := .setUp ⟨shelf, some name, .name "INFO", true⟩
    let greeting : List (Sink × Record) := [(.file "/a", ⟨.info, "Log file: a"⟩)]
    (Level.info.severity ≤ (Level.ofForeign "ERROR" 40).severity ∧
        Journal.initial.writtenBy [file "a", .foreign "ERROR" 40 "%d" [.str "x"]] = greeting) ∧
      (Level.info.severity ≤ (Level.ofForeign "ERROR" 0).severity ∧
        Journal.initial.writtenBy [file "a", .foreign "ERROR" 0 "m" []] = greeting) ∧
      Level.info.severity ≤ Level.error.severity ∧
        Journal.initial.writtenBy [file "a/x", .own (.name "ERROR") "m"] = [] := by
  intro file greeting
  -- What follows the set-up makes no record, so the set-up alone is left to be seen.
  have greets (p : Step) (request : p.request? = none) (record : p.record? = none) :
      Journal.initial.writtenBy [file "a", p] = greeting := by
    have latest : latest? ([file "a"] ++ [p]) = some ⟨shelf, some "a", .name "INFO", true⟩ := by
      rw [latest?_append, latest?_singleton p, request]
      rfl
    rw [← List.singleton_append, Journal.writtenBy_concat _ latest, record, Request.writes_none, List.append_nil,
      Journal.writtenBy_setUp]
    unfold Request.writes
    rw [handler_shelf]
    rfl
  refine ⟨⟨by decide, greets _ rfl rfl⟩, ⟨by decide, greets _ rfl rfl⟩, by decide, ?_⟩
  let q : Request := ⟨shelf, some "a/x", .name "INFO", true⟩
  have none : q.handler? = none := by
    simp only [q, Request.handler?, Request.sink?, ofName_below, Except.toOption, Option.map_none, Handler.of?]
  have opening : Journal.initial.writtenBy [file "a/x"] = [] :=
    (Journal.writtenBy_setUp _ q).trans (Request.writes_of_none none _)
  rw [← List.singleton_append, Journal.writtenBy_concat _ (q := q) rfl, opening, Request.writes_of_none none]
  rfl

end Log

end HintLine
