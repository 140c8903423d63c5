import HintLine.Proofs.Command.Enabling
import HintLine.Proofs.Command.Output

/-!
What is printed of all lines, and what is printed of each. Showing a line leaves nothing behind that the next one
depends on, so that a command that shows all lines prints each as a command does that shows it alone. Nothing else
reaches standard output: what is printed does not depend on what is logged and where, as long as it can be logged, nor
on whether errors are reported to the user.
-/

set_option autoImplicit false

namespace HintLine

open HintLine.Client (Server)
open HintLine.Plugin (Callable Catalogue)

def Effect.prints (e : Effect) : Bool := e.channel = .output

private theorem Trace.output_filter_prints (t : Trace) : output (t.filter Effect.prints) = t.output := by
  induction t with
  | nil => rfl
  | cons e t ih =>
    have split : output (e :: t) = output [e] ++ output t := output_append [e] t
    by_cases prints : e.prints
    · rw [List.filter_cons_of_pos prints, split, ← ih]
      exact output_append [e] _
    · have other : e.channel ≠ .output := fun same => prints (decide_eq_true same)
      have through : ∀ e' ∈ [e], e'.Through [e.channel] := by
        intro e' member
        rw [List.mem_singleton.1 member]
        exact List.mem_cons_self
      have nothing : output [e] = "" := output_eq_empty through fun member => other (List.mem_singleton.1 member).symm
      rw [List.filter_cons_of_neg prints, split, nothing, String.empty_append, ih]

private theorem Run.InStep.output {σ α : Type} {R : σ → σ → Prop} {r q : Run σ α}
    (inStep : r.InStep Effect.prints R q) : r.trace.output = q.trace.output := by
  rw [← Trace.output_filter_prints r.trace, inStep.trace, Trace.output_filter_prints]

namespace Session

theorem Akin.refl {s : Session} (styles : s.area.styles = .standard) : Akin Eq s s :=
  ⟨styles, s.settings, s.editor.cursor, s.area.last, rfl, rfl⟩

private theorem Akin.trans {s t u : Session} (first : Akin Eq s t) (second : Akin Eq t u) : Akin Eq s u := by
  obtain ⟨styles, _, cursor, last, rfl, rfl⟩ := first
  obtain ⟨-, _, cursor', last', rfl, rfl⟩ := second
  exact ⟨styles, _, cursor', last', rfl, rfl⟩

end Session

namespace Command

open Session (Akin)

/-- Each line is shown by itself, and what is printed of all of them is what is printed of each, after its number. -/
structure Joins {σ α : Type} (lines : List Int) (single : Int → Run σ α) (success : α) (output : String) : Prop where
  shown : ∀ n ∈ lines, (single n).outcome = .ok success
  printed : output = String.join (lines.map fun n => s!"{n}: " ++ (single n).trace.output)

private theorem Joins.by_other {σ τ α β : Type} {lines : List Int} {single : Int → Run σ α} {other : Int → Run τ β}
    {a : α} {b : β} {output : String} (joins : Joins lines single a output)
    (same : ∀ n ∈ lines, (single n).outcome = .ok a →
      (other n).outcome = .ok b ∧ (other n).trace.output = (single n).trace.output) : Joins lines other b output := by
  have each {n : Int} (member : n ∈ lines) := same n member (joins.shown n member)
  refine ⟨fun n member => (each member).1, ?_⟩
  rw [joins.printed]
  exact congrArg _ (List.map_congr_left fun n member => by rw [(each member).2])

section Akin

variable {s t : Session} (akin : Akin Eq s t)

include akin

private theorem akin_showLine (cursor : Cursor) : Akin Eq s (showLine cursor t).state := by
  have styles : t.area.styles = .standard := by
    obtain ⟨styles, _, _, _, _, rfl⟩ := akin
    exact styles
  refine akin.trans ?_
  have held : (showLine cursor t).state = (Session.hold { t with editor := { t.editor with cursor } }).state := rfl
  rw [held, Session.state_hold]
  exact ⟨styles, _, cursor, _, rfl, rfl⟩

private theorem inStep_showLine (cursor : Cursor) :
    (showLine cursor s).InStep Effect.prints (Akin Eq) (showLine cursor t) := by
  have displays : ∀ a b : Settings Callable, a = b → a.display = b.display := fun _ _ same => congrArg _ same
  exact Session.inStep_showing displays cursor s t akin

private theorem joins_forEach {lines : List Int} (done : (Act.forEach lines showNumbered t).outcome = .ok ()) :
    Joins lines (fun n => showLine ⟨n, 0⟩ s) () (Act.forEach lines showNumbered t).trace.output ∧
      Akin Eq s (Act.forEach lines showNumbered t).state := by
  -- whatever was shown before, each line is shown as from the session in the beginning
  induction lines generalizing t with
  | nil => exact ⟨⟨nofun, rfl⟩, akin⟩
  | cons n lines ih =>
    have each : Act.forEach (n :: lines) showNumbered =
        showNumbered n >>= fun _ => Act.forEach lines showNumbered := rfl
    rw [each] at done ⊢
    obtain ⟨u, first, rest, ran⟩ := Act.bind_succeeded done
    have numbered : showNumbered n t =
        ⟨(showLine ⟨n, 0⟩ t).outcome, (showLine ⟨n, 0⟩ t).state, [.out s!"{n}: "] ++ (showLine ⟨n, 0⟩ t).trace⟩ :=
      Act.bind_apply_ok (Act.emit_apply _ t)
    have same := inStep_showLine akin ⟨n, 0⟩
    rw [numbered] at first rest ran
    obtain ⟨joins, left⟩ := ih (akin_showLine akin ⟨n, 0⟩) rest
    rw [ran]
    refine ⟨⟨?_, ?_⟩, left⟩
    · intro m member
      rcases List.mem_cons.1 member with rfl | later
      · exact same.outcome.trans first
      · exact joins.shown m later
    · dsimp only
      rw [Trace.output_append, Trace.output_append, Trace.output_out, joins.printed, List.map_cons, String.join_cons,
        same.output]

private theorem outcome_cleanUp_akin (buffer : Ident) : (cleanUp buffer t).outcome = (cleanUp buffer s).outcome := by
  have cleaning : Act.InStep Effect.prints (Akin Eq) (cleanUp buffer) (cleanUp buffer) := inStep_cleanUp buffer
  exact (cleaning s t akin).outcome.symm

end Akin

private theorem conduct_of_ask {inv : Invocation} {server : Server} {s : Session} {buffer : Ident}
    (leads : (lead inv server s).outcome = .ok buffer)
    (asks : (ask server buffer (lead inv server s).state).outcome = .ok ()) (verb : Verb) :
    let presented := present verb inv buffer (ask server buffer (lead inv server s).state).state
    ((conduct verb inv server s).outcome = .ok () ↔
        presented.outcome = .ok () ∧ (cleanUp buffer presented.state).outcome = .ok ()) ∧
      (conduct verb inv server s).trace.output = presented.trace.output := by
  obtain ⟨ends, printed⟩ := conduct_of_lead leads verb
  have quiet : (ask server buffer (lead inv server s).state).trace.output = "" :=
    Trace.output_eq_empty (tells_ask server buffer _) (by decide)
  rcases asked : ask server buffer (lead inv server s).state with ⟨outcome, after, trace⟩
  rw [asked] at asks quiet
  obtain rfl : outcome = .ok () := asks
  rw [converse_eq, Act.bind_apply_ok asked] at ends printed
  refine ⟨ends, ?_⟩
  rw [printed]
  dsimp only
  rw [Trace.output_append, show Trace.output trace = "" from quiet, String.empty_append]

private theorem conduct_alone {inv : Invocation} {server : Server} {s : Session} {buffer : Ident}
    (leads : (lead inv server s).outcome = .ok buffer)
    (asks : (ask server buffer (lead inv server s).state).outcome = .ok ()) (n : Int) :
    let shown := showLine ⟨n, 0⟩ (ask server buffer (lead inv server s).state).state
    let alone := conduct .show { inv with line := n, column := 0 } server s
    (alone.outcome = .ok () ↔ shown.outcome = .ok () ∧ (cleanUp buffer shown.state).outcome = .ok ()) ∧
      alone.trace.output = shown.trace.output := by
  have same : lead { inv with line := n, column := 0 } server = lead inv server := rfl
  exact conduct_of_ask (same ▸ leads) (same ▸ asks) .show

/-- The session in which a command has asked its server for hints. -/
def answered (settings : Settings Callable) (before after : Files) (colour : Option Bool) (parses : Bool)
    (inv : Invocation) (text : String) (server : Server) : Session :=
  (ask server (.number 1)
    (joined (opening (.new settings before (.new .standard colour) parses) inv text) after server)).state

/-- The bucket of the file of a command; an empty one if none is kept. -/
def published (s : Session) : Bucket := (s.collector.bucket? (.number 1)).getD Table.empty

private theorem joins_present {s : Session} (styles : s.area.styles = .standard) {inv : Invocation}
    (done : (present .hints inv (.number 1) s).outcome = .ok ()) :
    Joins (published s).lines (fun n => showLine ⟨n, 0⟩ s) () (present .hints inv (.number 1) s).trace.output ∧
      Akin Eq s (present .hints inv (.number 1) s).state := by
  have presented : present .hints inv (.number 1) s = Act.forEach (published s).lines showNumbered s := by
    unfold present
    dsimp only
    rw [Act.bind_apply_ok (Act.get_apply s), List.nil_append]
    rfl
  rw [presented] at done ⊢
  exact joins_forEach (Akin.refl styles) done

private theorem joins_conduct {inv : Invocation} {server : Server} {settings : Settings Callable} {before : Files}
    {colour : Option Bool} {parses : Bool}
    (done : (conduct .hints inv server (.new settings before (.new .standard colour) parses)).outcome = .ok ()) :
    let conducted (verb : Verb) (inv : Invocation) :=
      conduct verb inv server (.new settings before (.new .standard colour) parses)
    ∃ text after,
      let s := answered settings before after colour parses inv text server
      published s = Bucket.ofInlays server.inlays ∧
      (conducted .hints inv).trace.output = (present .hints inv (.number 1) s).trace.output ∧
      Joins (published s).lines (fun n => conducted .show { inv with line := n, column := 0 }) ()
        (conducted .hints inv).trace.output := by
  intro conducted
  have begun := done
  rw [conduct_eq] at begun
  obtain ⟨buffer, leads, -, -⟩ := Act.bind_succeeded begun
  obtain ⟨own, text, after, led⟩ := lead_succeeded leads
  obtain rfl : buffer = .number 1 := own
  have talked := ((conduct_of_lead leads .hints).1.1 done).1
  rw [converse_eq] at talked
  obtain ⟨u, asks, -, -⟩ := Act.bind_succeeded talked
  obtain ⟨ends, printed⟩ := conduct_of_ask leads asks .hints
  have single (n : Int) := conduct_alone leads asks n
  have attending := attending_joined settings before after (.new .standard colour) parses inv text server
  let s : Session := answered settings before after colour parses inv text server
  have state :
      (ask server (.number 1) (lead inv server (.new settings before (.new .standard colour) parses)).state).state = s := by
    rw [led]
    rfl
  rw [led] at asks
  have kept : Answered _ s (.number 1) (Bucket.ofInlays server.inlays) := attending.answered_ask asks
  have styles : s.area.styles = .standard := congrArg Terminal.EchoArea.styles kept.area
  rw [state] at ends printed
  obtain ⟨presents, cleans⟩ := ends.1 done
  obtain ⟨joins, left⟩ := joins_present styles presents
  refine ⟨text, after, kept.bucket, printed, ?_⟩
  rw [← printed] at joins
  refine joins.by_other fun n member shown => ?_
  obtain ⟨finishes, same⟩ := single n
  rw [state] at finishes same
  have closes : (cleanUp (.number 1) (showLine ⟨n, 0⟩ s).state).outcome = .ok () := by
    rw [outcome_cleanUp_akin (akin_showLine (Akin.refl styles) ⟨n, 0⟩), ← outcome_cleanUp_akin left, cleans]
  exact ⟨finishes.2 ⟨shown, closes⟩, same⟩

private theorem joins_run {cat : Catalogue} {server : Server} {colour : Option Bool} {inv : Invocation} {files : Files}
    (done : (run cat server colour .hints inv files).outcome = .ok .success) :
    ∃ settings before parses text after, settingsOf cat inv files = .ok settings ∧
      let s := answered settings before after colour parses inv text server
      let output := (run cat server colour .hints inv files).trace.output
      published s = Bucket.ofInlays server.inlays ∧ output = (present .hints inv (.number 1) s).trace.output ∧
      Joins (published s).lines (fun n => run cat server colour .show { inv with line := n, column := 0 } files)
        .success output := by
  cases prepares : (prepare cat inv files).outcome with
  | error e =>
    have unprepared (settings : Settings Callable) : (prepare cat inv files).outcome ≠ .ok settings := by
      rw [prepares]
      exact nofun
    exact ((run_of_unprepared unprepared server colour .hints).1 done).elim
  | ok settings =>
    have read := ((prepared_iff cat inv files settings).1 prepares).1
    have worked : (work cat server colour settings .hints inv files).outcome = .ok () := work_of_run prepares done
    have begun := worked
    unfold work at begun
    obtain ⟨parses, found, -, -⟩ := Act.bind_succeeded begun
    obtain ⟨ends, works⟩ := work_of_found found server colour settings .hints
    obtain ⟨text, after, bucket, shown, joins⟩ := joins_conduct (ends.symm.trans worked)
    have printed := (run_of_prepared prepares server colour .hints).2.trans works
    refine ⟨settings, _, parses, text, after, read, bucket, printed.trans shown, ?_⟩
    rw [printed]
    refine joins.by_other fun n member single => ?_
    let alone : Invocation := { inv with line := n, column := 0 }
    have prepares : (prepare cat alone files).outcome = .ok settings := prepares
    have found : (findGrammar cat alone.grammar files).outcome = .ok parses := found
    obtain ⟨ends, same⟩ := run_of_prepared prepares server colour .show
    obtain ⟨finishes, again⟩ := work_of_found found server colour settings .show
    refine ⟨?_, same.trans again⟩
    rw [ends, finishes, single]
    rfl

private theorem inStep_work_displays {cat : Catalogue} {server : Server} {colour : Option Bool}
    {first second : Settings Callable} (same : first.display = second.display) (verb : Verb) (inv : Invocation) :
    Act.InStep Effect.prints Eq (work cat server colour first verb inv) (work cat server colour second verb inv) := by
  let P (a b : Settings Callable) : Prop := a.display = b.display
  have logs (r : Log.Record) : (Effect.log r).prints = false := rfl
  have reports (a b : Settings Callable) (_ : P a b) :
      a.notifyErrors = b.notifyErrors ∨ ∀ text, (Effect.err text).prints = false := Or.inr fun _ => rfl
  have displays (a b : Settings Callable) (may : P a b) : a.display = b.display := may
  exact inStep_work fun before parses =>
    inStep_conduct_either logs reports displays same verb inv server before colour parses

/-- Showing all lines and showing each of them agree, and nothing but what is shown is printed. If all lines are shown,
what is printed is, for each line of the bucket that the hints of the server make, in ascending order, the number of the
line and what is printed if that line is shown alone. It makes no difference to what is printed, nor to how a command
ends, what is logged and where, or which settings there are besides the display, if the log can be set up. If it cannot,
or if there are no settings, a command does not succeed, and ends before it does anything but log and report. -/
theorem printed_agrees (cat : Catalogue) (server : Server) (colour : Option Bool) (inv : Invocation) (files : Files) :
    let ran (verb : Verb) (inv : Invocation) := run cat server colour verb inv files
    ((ran .hints inv).outcome = .ok .success →
      ∃ settings before parses text after, settingsOf cat inv files = .ok settings ∧
        let s := answered settings before after colour parses inv text server
        published s = Bucket.ofInlays server.inlays ∧
        (ran .hints inv).trace.output = (present .hints inv (.number 1) s).trace.output ∧
        (published s).lines.Pairwise (· < ·) ∧
        Joins (published s).lines (fun n => ran .show { inv with line := n, column := 0 }) .success
          (ran .hints inv).trace.output) ∧
      (∀ verb config logFile trace first second,
        let other : Invocation := { inv with config, logFile, trace }
        settingsOf cat inv files = .ok first → settingsOf cat other files = .ok second →
        second.display = first.display → CanRecord inv files → CanRecord other files →
        (ran verb other).outcome = (ran verb inv).outcome ∧
          (ran verb other).trace.output = (ran verb inv).trace.output) ∧
      ∀ verb, ¬ (CanRecord inv files ∧ ∃ settings, settingsOf cat inv files = .ok settings) →
        (ran verb inv).outcome ≠ .ok .success ∧ (ran verb inv).state = files ∧
          (∀ e ∈ (ran verb inv).trace, e.Through [.log, .journal, .errors]) ∧ (ran verb inv).trace.output = "" := by
  intro ran
  refine ⟨?_, ?_, ?_⟩
  · intro done
    obtain ⟨settings, before, parses, text, after, read, bucket, shown, joins⟩ := joins_run done
    exact ⟨settings, before, parses, text, after, read, bucket, shown, Bucket.pairwise_lines _, joins⟩
  · intro verb config logFile trace first second other read again display records others
    have worked : (work cat server colour first verb inv files).InStep Effect.prints Eq
        (work cat server colour second verb other files) :=
      inStep_work_displays display.symm verb inv files files rfl
    have prepares := (prepared_iff cat inv files first).2 ⟨read, records⟩
    have prepared := (prepared_iff cat other files second).2 ⟨again, others⟩
    obtain ⟨ends, printed⟩ := run_of_prepared prepares server colour verb
    obtain ⟨finishes, same⟩ := run_of_prepared prepared server colour verb
    refine ⟨?_, ?_⟩
    · rw [ends, finishes, worked.outcome]
    · rw [printed, same, worked.output]
  · intro verb unable
    have unprepared (settings : Settings Callable) : (prepare cat inv files).outcome ≠ .ok settings := by
      intro prepares
      obtain ⟨read, records⟩ := (prepared_iff cat inv files settings).1 prepares
      exact unable ⟨records, settings, read⟩
    obtain ⟨fails, kept, through⟩ := run_of_unprepared unprepared server colour verb
    exact ⟨fails, kept, through, Trace.output_eq_empty through (by decide)⟩

/-- A server with one hint, on the first line. -/
private def terse : Server := giving (hintsAt [(0, 1, "a")])

private theorem lines_terse : (Bucket.ofInlays terse.inlays).lines = [1] := by
  have places : terse.inlays.map Inlay.line = [1] := by
    decide
  refine (Bucket.pairwise_lines _).eq_of_mem_iff (List.pairwise_singleton _ _) fun n => ?_
  rw [Bucket.mem_lines_ofInlays, ← places, List.mem_map]

/-- The line that has a hint is printed as it is shown alone, and is printed so when the command is traced. -/
theorem printed_agrees_terse :
    (run [] terse none .hints asking desk).outcome = .ok .success ∧
      (run [] terse none .hints asking desk).trace.output =
        "1: " ++ (run [] terse none .show { asking with line := 1, column := 0 } desk).trace.output ∧
      (run [] terse none .hints { asking with trace := true } desk).trace.output =
        (run [] terse none .hints asking desk).trace.output := by
  have finished : (run [] terse none .hints asking desk).outcome = .ok .success := run_desk _
  obtain ⟨joined, same, -⟩ := printed_agrees [] terse none asking desk
  obtain ⟨settings, before, parses, text, after, -, bucket, -, -, -, printed⟩ := joined finished
  have read : settingsOf [] asking desk = .ok .standard := rfl
  have traced := same .hints none none true .standard .standard read read rfl nofun nofun
  refine ⟨finished, ?_, traced.2⟩
  rw [printed, bucket, lines_terse, List.map_singleton, String.join_cons, String.join_nil, String.append_empty]
  rfl

private theorem writable_below_file : desk.writable (Path.ofString "a/x") = .error (.inTheWay "/a") := by
  have ends : Files.isEndless "a" = false := by
    simp [Files.isEndless]
  have checked : Files.checkName [] "a" = .ok () := by
    unfold Files.checkName
    rw [ends]
    rfl
  have walked : desk.checkWriting [] ["a", "x"] = .error (.inTheWay "/a") := by
    unfold Files.checkWriting
    rw [checked]
    rfl
  have steps : Path.settled ((Path.ofString "a/x").absolute desk.cwd).parts = ["a", "x"] := by
    decide
  unfold Files.writable
  dsimp only
  rw [steps, walked]
  rfl

/-- If the log is to be written below a file, what would be printed is not. -/
theorem prints_nothing_below_file :
    (run [] terse none .hints asking desk).trace.output ≠ "" ∧
      (run [] terse none .hints { asking with logFile := some "a/x" } desk).trace.output = "" := by
  constructor
  · have finished : (run [] terse none .hints asking desk).outcome = .ok .success := run_desk _
    obtain ⟨settings, before, parses, text, after, -, bucket, -, -, printed⟩ := joins_run finished
    rw [printed, bucket, lines_terse, List.map_singleton, String.join_cons]
    simp [show toString (1 : Int) = "1" from rfl]
  · have unable : ¬ CanRecord { asking with logFile := some "a/x" } desk := by
      intro records
      obtain ⟨resolved, path, resolves, writes⟩ := records "a/x" rfl
      have same : Log.FileName.resolve (Path.ofString "a/x").text = .ok "a/x" := by
        decide
      obtain rfl := Except.ok.inj (same.symm.trans resolves)
      cases writable_below_file.symm.trans writes
    obtain ⟨-, -, through⟩ := run_of_unprepared
      (fun settings prepares => unable ((prepared_iff _ _ _ settings).1 prepares).2) terse none .hints
    exact Trace.output_eq_empty through (by decide)

end Command

end HintLine
