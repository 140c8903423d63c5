import HintLine.Proofs.Command.Ask
import HintLine.Proofs.Command.CleanUp
import HintLine.Proofs.Command.Prepare
import HintLine.Proofs.Echo.Feeds
import Mathlib.Data.List.Sort

/-!
What is printed for hints. There is one piece of text for each line that has hints, which begins with the number of
the line and ends with a line feed. Values are brought to one line before they are shown, but labels are only trimmed: a
line feed inside a label reaches the terminal, so the pieces are lines just if no label has one.
-/

set_option autoImplicit false

namespace HintLine

open HintLine.Client (Server)
open HintLine.Plugin (Callable Catalogue)
open HintLine.Terminal (feeds)

private theorem Collector.lineHints_eq (c : Collector) (buffer : Ident) (n : Int) :
    c.lineHints buffer n = Bucket.line ((c.bucket? buffer).getD Table.empty) n := by
  unfold lineHints
  cases c.bucket? buffer <;> rfl

namespace Command

open Session (Showing)

/-- What is printed for a line: its number, then a text, then a line feed. -/
def numbered (n : Int) (text : String) : String := s!"{n}: {text}\n"

private theorem feeds_numbered (n : Int) (text : String) : feeds (numbered n text) = feeds text + 1 := by
  have colon : feeds ": " = 0 := rfl
  have last : feeds "\n" = 1 := rfl
  show feeds (toString n ++ ": " ++ text ++ "\n") = _
  rw [Terminal.feeds_append, Terminal.feeds_append, Terminal.feeds_append, Terminal.feeds_number, colon, last,
    Nat.zero_add]

section Showing

variable {s : Session} {buffer : Ident} {bucket : Bucket} (showing : s.Showing buffer bucket) {n : Int}
  (hinted : bucket.line n ≠ [])

include showing hinted

private theorem showLine_of_showing :
    ∃ text t trace, showLine ⟨n, 0⟩ s = ⟨.ok (), t, trace⟩ ∧ t.Showing buffer bucket ∧ trace.output = text ++ "\n" ∧
      feeds text = ((bucket.line n).map Hint.feeds).sum := by
  let pointed : Session := { s with editor := { s.editor with cursor := ⟨n, 0⟩ } }
  have hints : pointed.currentHints = bucket.line n := by
    have named : pointed.editor.current ≠ .absent := by
      show s.editor.current ≠ .absent
      rw [showing.current]
      exact showing.named
    unfold Session.currentHints
    rw [if_neg named, Collector.lineHints_eq]
    show Bucket.line ((s.collector.bucket? s.editor.current).getD Table.empty) n = _
    rw [showing.current, showing.bucket]
  have standard : pointed.settings.display = none := showing.standard
  have styles : pointed.area.styles = .standard := showing.styles
  obtain ⟨line, found, ran, sum, silent⟩ := Session.currentFragments_of_finds standard hints hinted
    (Echo.finds_feeds_fragments pointed.calm_scene _ _)
  obtain ⟨text, same, echoed⟩ := Terminal.EchoArea.echo_values styles line
  have held := Session.hold_of_found ran
  rw [echoed] at held
  have quiet : found.output = "" := Trace.output_eq_empty silent.through (by decide)
  have moved : Session.onEditor (Editor.setCursor ⟨n, 0⟩) s = ⟨.ok (), pointed, []⟩ := rfl
  let after : Session := { pointed with area := { pointed.area with last := line.map Echo.Fragment.value } }
  refine ⟨text, after, [] ++ (found ++ [.out (text ++ "\n")]), ?_, ?_, ?_, same.trans sum⟩
  · unfold showLine
    rw [Act.bind_apply_ok moved, held]
  · exact ⟨showing.named, showing.current, showing.bucket, showing.standard, showing.styles⟩
  · rw [List.nil_append, Trace.output_append, quiet, Trace.output_out, String.empty_append]

private theorem showNumbered_of_showing :
    ∃ text t trace, showNumbered n s = ⟨.ok (), t, trace⟩ ∧ t.Showing buffer bucket ∧
      trace.output = numbered n text ∧ feeds text = ((bucket.line n).map Hint.feeds).sum := by
  obtain ⟨text, t, trace, ran, still, printed, sum⟩ := showLine_of_showing showing hinted
  refine ⟨text, t, [.out s!"{n}: "] ++ trace, ?_, still, ?_, sum⟩
  · unfold showNumbered
    rw [Act.bind_apply_ok (Act.emit_apply _ s), ran]
  · rw [Trace.output_append, Trace.output_out, printed, ← String.append_assoc]
    rfl

end Showing

private theorem forEach_showNumbered {buffer : Ident} {bucket : Bucket} {lines : List Int} (once : lines.Nodup)
    (hinted : ∀ n ∈ lines, bucket.line n ≠ []) {s : Session} (showing : s.Showing buffer bucket) :
    ∃ (shown : Int → String) (t : Session) (trace : Trace), Act.forEach lines showNumbered s = ⟨.ok (), t, trace⟩ ∧
      trace.output = String.join (lines.map fun n => numbered n (shown n)) ∧
      ∀ n ∈ lines, feeds (shown n) = ((bucket.line n).map Hint.feeds).sum := by
  induction lines generalizing s with
  | nil => exact ⟨fun _ => "", s, [], rfl, rfl, fun _ member => (List.not_mem_nil member).elim⟩
  | cons n lines ih =>
    obtain ⟨fresh, once⟩ := List.nodup_cons.1 once
    obtain ⟨text, t, first, ran, still, printed, same⟩ := showNumbered_of_showing showing (hinted n List.mem_cons_self)
    obtain ⟨shown, u, rest, went, more, sums⟩ :=
      ih once (fun m member => hinted m (List.mem_cons_of_mem n member)) still
    have others : ∀ m ∈ lines, Function.update shown n text m = shown m := by
      intro m member
      refine Function.update_of_ne ?_ text shown
      rintro rfl
      exact fresh member
    refine ⟨Function.update shown n text, u, first ++ rest, ?_, ?_, ?_⟩
    · show (showNumbered n >>= fun _ => Act.forEach lines showNumbered) s = _
      rw [Act.bind_apply_ok ran, went]
    · rw [Trace.output_append, printed, more, List.map_cons, String.join_cons, Function.update_self]
      exact congrArg _ (congrArg _ (List.map_congr_left fun m member => by rw [others m member]))
    · intro m member
      rcases List.mem_cons.1 member with rfl | later
      · rw [Function.update_self, same]
      · rw [others m later, sums m later]

/-- Some hints are printed: for each line that has any, in ascending order, its number and a text. The text has the line
feeds of the labels on that line, so that there is one line feed a line just if no label has one inside. -/
structure Prints (inlays : List Inlay) (lines : List Int) (shown : Int → String) (output : String) : Prop where
  ascending : lines.Pairwise (· < ·)
  hinted : ∀ n, n ∈ lines ↔ ∃ i ∈ inlays, i.line = n
  printed : output = String.join (lines.map fun n => numbered n (shown n))
  inside : ∀ n ∈ lines, feeds (shown n) =
    ((inlays.filter fun i => i.line = n).map fun i => feeds (Label.trim i.label.text)).sum
  oneEach : feeds output = lines.length ↔ ∀ i ∈ inlays, '\n' ∉ (Label.trim i.label.text).toList

private theorem feeds_join_numbered (lines : List Int) (shown : Int → String) :
    feeds (String.join (lines.map fun n => numbered n (shown n))) =
      (lines.map fun n => feeds (shown n)).sum + lines.length := by
  induction lines with
  | nil => rfl
  | cons n lines ih =>
    rw [List.map_cons, String.join_cons, Terminal.feeds_append, feeds_numbered, ih, List.map_cons, List.sum_cons,
      List.length_cons]
    omega

private theorem Prints.of_inside {inlays : List Inlay} {lines : List Int} {shown : Int → String}
    (ascending : lines.Pairwise (· < ·)) (hinted : ∀ n, n ∈ lines ↔ ∃ i ∈ inlays, i.line = n)
    (inside : ∀ n ∈ lines, feeds (shown n) =
      ((inlays.filter fun i => i.line = n).map fun i => feeds (Label.trim i.label.text)).sum) :
    Prints inlays lines shown (String.join (lines.map fun n => numbered n (shown n))) := by
  refine ⟨ascending, hinted, rfl, inside, ?_⟩
  have own {n : Int} (member : n ∈ lines) :
      feeds (shown n) = 0 ↔ ∀ i ∈ inlays, i.line = n → '\n' ∉ (Label.trim i.label.text).toList := by
    rw [inside n member, List.sum_eq_zero_iff_forall_eq_nat]
    constructor
    · intro none i listed here
      have counted : i ∈ inlays.filter fun i => i.line = n := List.mem_filter.2 ⟨listed, decide_eq_true here⟩
      exact Terminal.feeds_eq_zero_iff.1 (none _ (List.mem_map_of_mem counted))
    · intro none m counted
      obtain ⟨i, listed, rfl⟩ := List.mem_map.1 counted
      obtain ⟨listed, here⟩ := List.mem_filter.1 listed
      exact Terminal.feeds_eq_zero_iff.2 (none i listed (of_decide_eq_true here))
  rw [feeds_join_numbered, Nat.add_eq_right, List.sum_eq_zero_iff_forall_eq_nat]
  constructor
  · intro none i listed
    have member : i.line ∈ lines := (hinted i.line).2 ⟨i, listed, rfl⟩
    exact (own member).1 (none _ (List.mem_map_of_mem member)) i listed rfl
  · intro none m counted
    obtain ⟨n, member, rfl⟩ := List.mem_map.1 counted
    exact (own member).2 fun i listed _ => none i listed

private theorem Prints.lines_eq {inlays : List Inlay} {lines others : List Int} {shown : Int → String} {output : String}
    (prints : Prints inlays lines shown output) (ascending : others.Pairwise (· < ·))
    (same : ∀ n, n ∈ others ↔ n ∈ inlays.map Inlay.line) : lines = others := by
  refine prints.ascending.eq_of_mem_iff ascending fun n => ?_
  rw [prints.hinted, same, List.mem_map]

private theorem present_of_showing {s : Session} {buffer : Ident} {inlays : List Inlay}
    (showing : s.Showing buffer (Bucket.ofInlays inlays)) (inv : Invocation) :
    (present .hints inv buffer s).outcome = .ok () ∧
      ∃ lines shown, Prints inlays lines shown (present .hints inv buffer s).trace.output := by
  have ascending := Bucket.pairwise_lines (Bucket.ofInlays inlays)
  have once : (Bucket.ofInlays inlays).lines.Nodup := ascending.imp fun {m n} before => Int.ne_of_lt before
  have hinted {n : Int} (member : n ∈ (Bucket.ofInlays inlays).lines) : (Bucket.ofInlays inlays).line n ≠ [] :=
    Bucket.line_ne_nil_iff.2 (Bucket.mem_lines_ofInlays.1 member)
  obtain ⟨shown, t, trace, ran, printed, sums⟩ := forEach_showNumbered once (fun n member => hinted member) showing
  have presented : present .hints inv buffer s = ⟨.ok (), t, trace⟩ := by
    unfold present
    dsimp only
    rw [Act.bind_apply_ok (Act.get_apply s), showing.bucket, ran]
    rfl
  rw [presented]
  refine ⟨rfl, (Bucket.ofInlays inlays).lines, shown, ?_⟩
  dsimp only
  rw [printed]
  refine .of_inside ascending (fun n => Bucket.mem_lines_ofInlays) ?_
  intro n member
  have same : Hint.feeds ∘ Hint.ofInlay = fun i => feeds (Label.trim i.label.text) := by
    funext i
    rw [Function.comp_apply, Hint.feeds_ofInlay]
  rw [sums n member, Bucket.line_ofInlays, List.map_map, same]
  exact ((Bucket.lists_onLine inlays n).perm.map _).sum_nat

private theorem prints_converse {s : Session} {server : Server} {buffer : Ident} (serving : Serving s server buffer)
    {inv : Invocation} (done : (converse .hints inv server buffer s).outcome = .ok ()) :
    ∃ lines shown, Prints server.inlays lines shown (converse .hints inv server buffer s).trace.output := by
  rw [converse_eq] at done ⊢
  obtain ⟨u, asks, -, ran⟩ := Act.bind_succeeded done
  have quiet : (ask server buffer s).trace.output = "" := Trace.output_eq_empty (tells_ask server buffer s) (by decide)
  obtain ⟨-, lines, shown, prints⟩ := present_of_showing (serving.showing_ask asks) inv
  refine ⟨lines, shown, ?_⟩
  rw [ran]
  dsimp only
  rw [Trace.output_append, quiet, String.empty_append]
  exact prints

private theorem outcome_converse {s : Session} {server : Server} {buffer : Ident} (serving : Serving s server buffer)
    {inv : Invocation} (asks : (ask server buffer s).outcome = .ok ()) :
    (converse .hints inv server buffer s).outcome = .ok () := by
  have shows := (present_of_showing (serving.showing_ask asks) inv).1
  rw [converse_eq]
  rcases ran : ask server buffer s with ⟨outcome, t, trace⟩
  rw [ran] at asks shows
  obtain rfl : outcome = .ok () := asks
  rw [Act.bind_apply_ok ran]
  exact shows

private theorem serving_joined {settings : Settings Callable} (standard : settings.display = none)
    (before after : Files) (colour : Option Bool) (parses : Bool) (inv : Invocation) (text : String) (server : Server) :
    Serving (joined (opening (.new settings before (.new .standard colour) parses) inv text) after server) server
      (.number 1) where
  toAttending := attending_joined settings before after (.new .standard colour) parses inv text server
  standard := standard
  styles := rfl

/-- What a command prints that shows all hints of a file and succeeds, with hints displayed in the standard way. It is
printed in the conversation with the server, and would be so whatever syntax trees there were. -/
theorem prints_run {cat : Catalogue} {server : Server} {colour : Option Bool} {inv : Invocation} {files : Files}
    {settings : Settings Callable} (prepared : (prepare cat inv files).outcome = .ok settings)
    (standard : settings.display = none) (finished : (run cat server colour .hints inv files).outcome = .ok .success) :
    (∃ lines shown, Prints server.inlays lines shown (run cat server colour .hints inv files).trace.output) ∧
      ∃ before parses text after,
        let s := joined (opening (.new settings before (.new .standard colour) parses) inv text) after server
        (run cat server colour .hints inv files).trace.output =
          (converse .hints inv server (.number 1) s).trace.output ∧
        ∀ forest, let r := converse .hints inv server (.number 1) { s with forest }
          r.outcome = .ok () → ∃ lines shown, Prints server.inlays lines shown r.trace.output := by
  obtain ⟨before, parses, text, after, talked, same⟩ := run_succeeded prepared finished
  have serving := serving_joined standard before after colour parses inv text server
  refine ⟨?_, before, parses, text, after, same, ?_⟩
  · rw [same]
    exact prints_converse serving talked
  · intro forest r done
    have other : Serving { joined _ after server with forest } server (.number 1) :=
      ⟨⟨serving.named, serving.isOpen, serving.current, serving.client, serving.alone, serving.due, serving.inFlight,
        serving.tasks, serving.nothing⟩, serving.standard, serving.styles⟩
    exact prints_converse other done

/-- Hints at some lines and characters, with their labels. -/
def hintsAt (places : List (Int × Int × String)) : List Inlay :=
  places.filterMap fun p => (Position.ofInts p.1 p.2.1).toOption.map fun position => ⟨position, .whole p.2.2, none⟩

/-- A server that goes along with everything and gives some hints. -/
def giving (inlays : List Inlay) : Server := { Server.willing true with answer := .hints (some inlays) }

private theorem ask_giving (inlays : List Inlay) (files : Files) :
    (ask (giving inlays) (.number 1) (joined (opening outset asking "x") files (giving inlays))).outcome = .ok () := by
  rfl

theorem run_desk (inlays : List Inlay) :
    (run [] (giving inlays) none .hints asking desk).outcome = .ok .success := by
  let server := giving inlays
  have conducted : (conduct .hints asking server outset).outcome = .ok () := by
    have launches : server.launch = .ok () := rfl
    have greets : server.handshake = .ok () := rfl
    have shuts : server.shutdown = .ok () := rfl
    obtain ⟨files, same⟩ := outcome_conduct (s := outset) readText_desk (launch_desk launches) greets
    have serving : Serving (joined (opening outset asking "x") files server) server (.number 1) :=
      serving_joined rfl desk files none false asking "x" server
    rw [same, outcome_ensuring_cleanUp rfl shuts]
    exact outcome_converse serving (ask_giving inlays files)
  have worked : (work [] server none .standard .hints asking desk).outcome = .ok () := by
    have found : findGrammar [] asking.grammar desk = ⟨.ok false, desk, []⟩ := rfl
    unfold work
    rw [Act.bind_apply_ok found]
    exact conducted
  obtain ⟨t, prepared⟩ : ∃ t, prepare [] asking desk = ⟨.ok .standard, desk, t⟩ := ⟨_, rfl⟩
  have attempted : Act.attempt (prepare [] asking) desk = ⟨.ok (.ok .standard), desk, t⟩ := by
    rw [Act.attempt_apply, prepared]
  unfold run
  rw [Act.bind_apply_ok attempted]
  dsimp only
  rcases ran : work [] server none .standard .hints asking desk with ⟨outcome, after, trace⟩
  rw [ran] at worked
  obtain rfl : outcome = .ok () := worked
  rw [Act.bind_apply_ok ran]
  rfl

/-- A server with two hints on the first line and one on the third. -/
private def chatty : Server := giving (hintsAt [(2, 0, "c"), (0, 4, ": b"), (0, 1, "a:")])

theorem prints_run_chatty :
    (prepare [] asking desk).outcome = .ok .standard ∧
      (run [] chatty none .hints asking desk).outcome = .ok .success ∧
      ∃ first third, (run [] chatty none .hints asking desk).trace.output = numbered 1 first ++ numbered 3 third ∧
        feeds first = 0 ∧ feeds third = 0 := by
  have prepared : (prepare [] asking desk).outcome = .ok .standard := rfl
  have finished : (run [] chatty none .hints asking desk).outcome = .ok .success := run_desk _
  obtain ⟨⟨lines, shown, prints⟩, -⟩ := prints_run prepared rfl finished
  have ascending : [(1 : Int), 3].Pairwise (· < ·) := by
    decide
  have among (n : Int) : n ∈ [1, 3] ↔ n ∈ chatty.inlays.map Inlay.line := by
    have places : chatty.inlays.map Inlay.line = [3, 1, 1] := by
      decide
    rw [places]
    simp [or_comm]
  obtain rfl := prints.lines_eq ascending among
  refine ⟨prepared, finished, shown 1, shown 3, ?_, ?_, ?_⟩
  · rw [prints.printed, List.map_cons, List.map_singleton, String.join_cons, String.join_cons, String.join_nil,
      String.append_empty]
  · rw [prints.inside 1 List.mem_cons_self]
    decide
  · rw [prints.inside 3 (by decide)]
    decide

/-- A server with one hint, whose label is of two lines. -/
private def verbose : Server := giving (hintsAt [(0, 1, "a\nb")])

/-- The one line that has a hint is printed as two lines. -/
theorem two_lines_of_label :
    (prepare [] asking desk).outcome = .ok .standard ∧
      (run [] verbose none .hints asking desk).outcome = .ok .success ∧ verbose.inlays.map Inlay.line = [1] ∧
      feeds (run [] verbose none .hints asking desk).trace.output = 2 := by
  have prepared : (prepare [] asking desk).outcome = .ok .standard := rfl
  have finished : (run [] verbose none .hints asking desk).outcome = .ok .success := run_desk _
  obtain ⟨before, parses, text, after, talked, same⟩ := run_succeeded prepared finished
  obtain ⟨lines, shown, prints⟩ :=
    prints_converse (serving_joined rfl before after none parses asking text verbose) talked
  have places : verbose.inlays.map Inlay.line = [1] := by
    decide
  obtain rfl := prints.lines_eq (List.pairwise_singleton _ _) fun n => by rw [places]
  have inside : feeds (shown 1) = 1 := by
    rw [prints.inside 1 List.mem_cons_self]
    decide
  refine ⟨prepared, finished, places, ?_⟩
  rw [same, prints.printed, feeds_join_numbered, List.map_singleton, List.sum_singleton, inside]
  rfl

end Command

end HintLine
