import HintLine.Proofs.Command.Conduct
import HintLine.Proofs.InStep

/-!
Preparing a command. The files stay as they are, and only the log and the journal see it. Preparation ends in the
settings that were read if the log can be set up, which it can unless a file is named for it that cannot be written. A
command that is not prepared prints nothing, and any other ends as its work does.
-/

set_option autoImplicit false

namespace HintLine

open HintLine.Client (Server)
open HintLine.Plugin (Callable Catalogue)

private theorem Plugin.Catalogue.steady_member {σ : Type} (cat : Catalogue) (source : String) :
    (cat.member source : Act σ Plugin.Member).Steady := by
  unfold member
  dsimp only
  split
  · exact Act.steady_fail _
  split
  · exact Act.steady_fail _
  · refine (Act.steady_ofExcept _).bind fun m => ?_
    split
    · exact Act.steady_pure _
    · exact (Act.steady_log _ _).bind fun _ => Act.steady_fail _

namespace Settings

section Steady

variable {σ : Type}

theorem steady_readNamed (files : Files) (path : Path) : (readNamed files path : Act σ (Settings String)).Steady := by
  unfold readNamed
  refine (Act.steady_log _ _).bind fun _ => (Act.steady_ofResult _ _).bind fun bytes => ?_
  split
  · exact Act.steady_fail _
  · refine (Act.steady_ofExcept _).bind fun fields => ?_
    split
    · exact (Act.steady_log _ _).bind fun _ => Act.steady_pure _
    · exact Act.steady_ofResult _ _

private theorem steady_displayed (cat : Catalogue) (named : Settings String) :
    (displayed cat named : Act σ (Settings Callable)).Steady := by
  have found (name : String) : (findDisplay cat name : Act σ Callable).Steady := by
    refine (cat.steady_member name).attempt.bind fun outcome => ?_
    split
    · exact Act.steady_pure _
    all_goals exact Act.steady_fail _
  unfold displayed
  cases named.display with
  | none => exact (Act.steady_pure _).bind fun _ => Act.steady_pure _
  | some name => exact ((found name).bind fun _ => Act.steady_pure _).bind fun _ => Act.steady_pure _

private theorem steady_read (cat : Catalogue) (files : Files) (path : Option Path) :
    (Settings.read cat files path : Act σ (Settings Callable)).Steady := by
  cases path with
  | none => exact Act.steady_pure _
  | some path =>
    rw [read_some]
    exact (steady_readNamed files path).bind fun named => steady_displayed cat named

end Steady

section Read

variable {σ : Type} {files : Files} {s : σ}

private theorem logLevel_mem_read {cat : Catalogue} {path : Option Path} {settings : Settings Callable}
    (done : (Settings.read cat files path s).outcome = .ok settings) : settings.logLevel ∈ Log.Level.all := by
  cases path with
  | none =>
    obtain rfl : standard = settings := Except.ok.inj done
    decide
  | some path =>
    rw [read_some] at done
    obtain ⟨named, found, finds, -⟩ := Act.bind_succeeded done
    have kept : ∃ display, { named with display } = settings := by
      unfold displayed at finds
      cases name : named.display with
      | none =>
        rw [name] at finds
        exact ⟨none, Except.ok.inj finds⟩
      | some source =>
        rw [name] at finds
        obtain ⟨display, -, same, -⟩ := Act.bind_succeeded finds
        exact ⟨display, Except.ok.inj same⟩
    obtain ⟨display, rfl⟩ := kept
    exact logLevel_mem_readNamed found

end Read

end Settings

namespace Log

variable {σ : Type}

private theorem setUp_apply (file : Option LogFile) {l : Level} (named : l ∈ Level.all) (console : Bool) (s : σ) :
    ∃ t, setUp ⟨file, .name l.label, console⟩ s = ⟨.ok (), s, t⟩ := by
  have level : (LevelChoice.name l.label).level = .ok l := by
    simp only [LevelChoice.level, Level.ofName?_label named]
  have made : ∃ j, Journal.ofSetup ⟨file, .name l.label, console⟩ = .ok j := by
    unfold Journal.ofSetup
    split
    · exact ⟨_, rfl⟩
    · dsimp only
      rw [level]
      exact ⟨_, rfl⟩
  obtain ⟨j, made⟩ := made
  unfold setUp
  rw [Act.bind_apply_ok (Act.emit_apply _ s), made]
  cases file with
  | none => exact ⟨_, rfl⟩
  | some file => exact ⟨_, rfl⟩

/-- The file that a name leads to, if records can be written to it. -/
def CanWrite (files : Files) (name : String) : Prop :=
  ∃ resolved path, FileName.resolve name = .ok resolved ∧ files.writable (Path.ofString resolved) = .ok path

private theorem setUpFile_apply (files : Files) (name : String) {l : Level} (named : l ∈ Level.all) (s : σ) :
    ∃ o t, setUpFile files name (.name l.label) s = ⟨o, s, t⟩ ∧ (o = .ok () ↔ CanWrite files name) := by
  unfold setUpFile LogFile.ofName CanWrite
  cases resolves : FileName.resolve name with
  | error e =>
    refine ⟨_, _, rfl, nofun, ?_⟩
    rintro ⟨resolved, path, found, -⟩
    cases found
  | ok resolved =>
    cases writes : files.writable (Path.ofString resolved) with
    | error e =>
      dsimp only [Except.mapError, Except.bind, Except.map]
      rw [writes]
      refine ⟨_, _, rfl, nofun, ?_⟩
      rintro ⟨_, path, ⟨⟩, found⟩
      rw [writes] at found
      cases found
    | ok path =>
      obtain ⟨t, ran⟩ := setUp_apply (some ⟨name, path⟩) named false s
      dsimp only [Except.mapError, Except.bind, Except.map]
      rw [writes]
      exact ⟨_, t, ran, fun _ => ⟨resolved, path, rfl, writes⟩, fun _ => rfl⟩

private theorem arrange_apply (files : Files) (file : Option String) {l : Level} (named : l ∈ Level.all)
    (console : Bool) (s : σ) : ∃ o t, arrange files file (.name l.label) console s = ⟨o, s, t⟩ ∧
      (o = .ok () ↔ ∀ name ∈ file, CanWrite files name) := by
  cases file with
  | none =>
    obtain ⟨t, ran⟩ := setUp_apply none named console s
    exact ⟨_, t, ran, fun _ => nofun, fun _ => rfl⟩
  | some name =>
    obtain ⟨o, t, ran, done⟩ := setUpFile_apply files name named s
    exact ⟨o, t, ran, by simpa using done⟩

end Log

namespace Command

variable {cat : Catalogue} {inv : Invocation} {files : Files}

/-- The settings of a command, or what reading them fails with. -/
def settingsOf (cat : Catalogue) (inv : Invocation) (files : Files) : Except Fault (Settings Callable) :=
  (Settings.read cat files (inv.config.map Path.ofString) files).outcome

/-- The log can be set up: if a file is named for it, that can be written. -/
def CanRecord (inv : Invocation) (files : Files) : Prop := ∀ f ∈ inv.logFile, Log.CanWrite files (Path.ofString f).text

private theorem prepare_apply (cat : Catalogue) (inv : Invocation) (files : Files) :
    ∃ o t, prepare cat inv files = ⟨o, files, t⟩ ∧
      ∀ settings, o = .ok settings ↔ settingsOf cat inv files = .ok settings ∧ CanRecord inv files := by
  obtain ⟨read, t, steady⟩ : (Settings.read cat files (inv.config.map Path.ofString) : Act Files _).Steady :=
    Settings.steady_read _ _ _
  have ran := steady files
  have settled : settingsOf cat inv files = read := congrArg Run.outcome ran
  unfold prepare
  rw [Act.bind_apply_ok (Act.get_apply files), settled]
  dsimp only
  cases read with
  | error e =>
    rw [Act.bind_apply_error ran]
    exact ⟨_, _, rfl, fun settings => ⟨nofun, nofun⟩⟩
  | ok settings =>
    have levelled : (if inv.trace then .trace else settings.logLevel) ∈ Log.Level.all := by
      split
      · decide
      · exact Settings.logLevel_mem_read settled
    obtain ⟨o, u, sets, done⟩ :=
      Log.arrange_apply files (inv.logFile.map fun f => (Path.ofString f).text) levelled inv.trace files
    have records : o = .ok () ↔ CanRecord inv files := by
      rw [done]
      simp [CanRecord]
    rw [Act.bind_apply_ok ran]
    dsimp only
    rw [Act.bind_apply_ok (Act.get_apply files)]
    dsimp only
    cases o with
    | error e =>
      rw [Act.bind_apply_error sets]
      exact ⟨_, _, rfl, fun other => ⟨nofun, fun both => (nomatch records.2 both.2)⟩⟩
    | ok v =>
      rw [Act.bind_apply_ok sets]
      exact ⟨_, _, rfl, fun other => ⟨fun same => ⟨same, records.1 rfl⟩, And.left⟩⟩

theorem prepared_iff (cat : Catalogue) (inv : Invocation) (files : Files) (settings : Settings Callable) :
    (prepare cat inv files).outcome = .ok settings ↔ settingsOf cat inv files = .ok settings ∧ CanRecord inv files := by
  obtain ⟨o, t, ran, iff⟩ := prepare_apply cat inv files
  rw [ran]
  exact iff settings

private theorem attempt_prepare (cat : Catalogue) (inv : Invocation) (files : Files) :
    ∃ t, Act.attempt (prepare cat inv) files = ⟨.ok (prepare cat inv files).outcome, files, t⟩ ∧
      Trace.output t = "" := by
  have quiet : (prepare cat inv files).trace.output = "" :=
    Trace.output_eq_empty (tells_prepare cat inv files) (by decide)
  obtain ⟨o, t, ran, -⟩ := prepare_apply cat inv files
  rw [Act.attempt_apply, ran]
  rw [ran] at quiet
  exact ⟨t, rfl, quiet⟩

theorem run_of_prepared {settings : Settings Callable} (prepared : (prepare cat inv files).outcome = .ok settings)
    (server : Server) (colour : Option Bool) (verb : Verb) :
    let worked := work cat server colour settings verb inv files
    (run cat server colour verb inv files).outcome = worked.outcome.map (fun _ => .success) ∧
      (run cat server colour verb inv files).trace.output = worked.trace.output := by
  intro worked
  obtain ⟨t, attempted, quiet⟩ := attempt_prepare cat inv files
  rw [prepared] at attempted
  unfold run
  rw [Act.bind_apply_ok attempted]
  dsimp only
  rw [Trace.output_append, quiet, String.empty_append]
  rcases works : work cat server colour settings verb inv files with ⟨e | u, after, trace⟩
  · rw [Act.bind_apply_error works, show worked = _ from works]
    exact ⟨rfl, rfl⟩
  · rw [Act.bind_apply_ok works, show worked = _ from works, Act.pure_apply, List.append_nil]
    exact ⟨rfl, rfl⟩

theorem work_of_run {settings : Settings Callable} {server : Server} {colour : Option Bool} {verb : Verb}
    (prepared : (prepare cat inv files).outcome = .ok settings)
    (done : (run cat server colour verb inv files).outcome = .ok .success) :
    (work cat server colour settings verb inv files).outcome = .ok () := by
  have ends := (run_of_prepared prepared server colour verb).1
  rw [done] at ends
  cases works : (work cat server colour settings verb inv files).outcome with
  | error e =>
    rw [works] at ends
    cases ends
  | ok u => rfl

theorem run_succeeded {server : Server} {colour : Option Bool} {verb : Verb} {settings : Settings Callable}
    (prepared : (prepare cat inv files).outcome = .ok settings)
    (finished : (run cat server colour verb inv files).outcome = .ok .success) :
    ∃ before parses text after,
      let start := Session.new settings before (.new .standard colour) parses
      let r := converse verb inv server (.number 1) (joined (opening start inv text) after server)
      r.outcome = .ok () ∧ (run cat server colour verb inv files).trace.output = r.trace.output := by
  obtain ⟨before, parses, text, after, talked, printed⟩ := work_succeeded (work_of_run prepared finished)
  exact ⟨before, parses, text, after, talked, (run_of_prepared prepared server colour verb).2.trans printed⟩

theorem run_of_unprepared (unprepared : ∀ settings, (prepare cat inv files).outcome ≠ .ok settings) (server : Server)
    (colour : Option Bool) (verb : Verb) :
    let ran := run cat server colour verb inv files
    ran.outcome ≠ .ok .success ∧ ran.state = files ∧ ∀ e ∈ ran.trace, e.Through [.log, .journal, .errors] := by
  have told : ∀ e ∈ (prepare cat inv files).trace, e.Through [.log, .journal, .errors] :=
    (tells_prepare cat inv).widen (by decide) files
  obtain ⟨o, t, prepared, -⟩ := prepare_apply cat inv files
  rw [prepared] at unprepared told
  have attempted : Act.attempt (prepare cat inv) files = ⟨.ok o, files, t⟩ := by
    rw [Act.attempt_apply, prepared]
  unfold run
  rw [Act.bind_apply_ok attempted]
  cases o with
  | ok settings => exact (unprepared settings rfl).elim
  | error e =>
    cases e with
    | refusal r =>
      refine ⟨nofun, rfl, fun e member => ?_⟩
      rcases List.mem_append.1 member with before | reported
      · exact told e before
      · rw [List.mem_singleton.1 reported]
        exact List.mem_cons_of_mem _ (List.mem_cons_of_mem _ List.mem_cons_self)
    | _ => exact ⟨nofun, rfl, fun e member => told e (List.append_nil t ▸ member)⟩

end Command

end HintLine
