import HintLine.Proofs.Session.Steps

/-!
What stays on display. A line is shown while the cursor rests, and what was shown last stays until something else is.
Only a display function can keep a line from being shown: it fails, or gives what is not made of pairs. Then resting
the cursor fails too, and a line of an earlier cursor stays where it was.
-/

set_option autoImplicit false

namespace HintLine

open HintLine.Plugin (Callable)
open HintLine.Terminal (EchoArea)

/-- How a display function fails on the hints of a line: of itself, or by what it gives. -/
inductive Echo.FailsOn (f : Callable) (line : Int) (hints : List Hint) : Fault → Prop
  | raises {e : Fault} (raised : f.onLine line hints = .error e) : FailsOn f line hints e
  | misshapen {v : Value} {e : UnpackError} (given : f.onLine line hints = .ok v) (some : v ≠ .null)
      (shape : fragmentValues v = .error e) : FailsOn f line hints (.unpack e)

private theorem Echo.FailsOn.unique {f : Callable} {line : Int} {hints : List Hint} {e e' : Fault}
    (first : FailsOn f line hints e) (second : FailsOn f line hints e') : e = e' := by
  cases first with
  | raises raised =>
    cases second with
    | raises again => exact Except.error.inj (raised.symm.trans again)
    | misshapen given => cases raised.symm.trans given
  | misshapen given _ shape =>
    cases second with
    | raises raised => cases raised.symm.trans given
    | misshapen again _ other =>
      obtain rfl := Except.ok.inj (given.symm.trans again)
      obtain rfl := Except.error.inj (shape.symm.trans other)
      rfl

private theorem Echo.called_cases {σ : Type} (f : Callable) (line : Int) (hints : List Hint) (s : σ) :
    (∃ given t, (called f line hints : Act σ (Option (List Value))) s = ⟨.ok given, s, t⟩ ∧
        ∀ e, ¬ FailsOn f line hints e) ∨
      ∃ e, (called f line hints : Act σ (Option (List Value))) s = ⟨.error e, s, []⟩ ∧ FailsOn f line hints e := by
  unfold called
  cases ran : f.onLine line hints with
  | error e => exact Or.inr ⟨e, rfl, .raises ran⟩
  | ok v =>
    rw [Act.bind_apply_ok (Act.ofExcept_apply _ s)]
    by_cases null : v = .null
    · subst null
      refine Or.inl ⟨none, _, rfl, ?_⟩
      rintro e (⟨raised⟩ | ⟨given, some, -⟩)
      · rw [ran] at raised
        cases raised
      · rw [ran] at given
        exact some (Except.ok.inj given).symm
    · cases shape : fragmentValues v with
      | error e =>
        refine Or.inr ⟨.unpack e, ?_, .misshapen ran null shape⟩
        cases v <;> first | exact (null rfl).elim | simp only [shape]; rfl
      | ok values =>
        refine Or.inl ⟨some values, [], ?_, ?_⟩
        · cases v <;> first | exact (null rfl).elim | simp only [shape]; rfl
        · rintro e (⟨raised⟩ | ⟨given, -, failed⟩)
          · rw [ran] at raised
            cases raised
          · rw [ran] at given
            obtain rfl := Except.ok.inj given
            rw [shape] at failed
            cases failed

namespace Session

/-- The line of the cursor cannot be shown: it has hints, and the display function fails on them. -/
def Unshowable (s : Session) (e : Fault) : Prop :=
  s.currentHints ≠ [] ∧
    ∃ f, s.settings.display = some f ∧ Echo.FailsOn f s.editor.cursor.line s.currentHints e

private theorem currentFragments_cases (s : Session) :
    (∃ values t, currentFragments s = ⟨.ok values, s, t⟩ ∧ ∀ e, ¬ s.Unshowable e) ∨
      ∃ e, currentFragments s = ⟨.error e, s, []⟩ ∧ s.Unshowable e := by
  cases hints : s.currentHints with
  | nil => exact Or.inl ⟨[], [], currentFragments_of_empty hints, fun e failed => failed.1 hints⟩
  | cons hint rest =>
    have some : s.currentHints ≠ [] := by simp [hints]
    cases display : s.settings.display with
    | none =>
      obtain ⟨line, t, found, -⟩ :=
        currentFragments_of_finds display rfl some (Echo.finds_some_fragments s.calm_scene _ _)
      refine Or.inl ⟨_, t, found, ?_⟩
      rintro e ⟨-, f, custom, -⟩
      rw [display] at custom
      cases custom
    | some f =>
      have custom : s.display = .custom f := by simp [Session.display, display]
      have made : currentFragments s =
          (Echo.called f s.editor.cursor.line (hint :: rest) >>= fun given => pure (given.getD [])) s := by
        unfold currentFragments
        rw [Act.bind_apply_ok (Act.get_apply s), hints, custom]
        rfl
      rw [made]
      rcases Echo.called_cases f s.editor.cursor.line (hint :: rest) s with
        ⟨given, t, ran, fine⟩ | ⟨e, ran, failed⟩
      · rw [Act.bind_apply_ok ran]
        refine Or.inl ⟨given.getD [], t, by simp, ?_⟩
        rintro e ⟨-, g, same, failed⟩
        rw [display] at same
        obtain rfl := Option.some.inj same
        rw [hints] at failed
        exact fine e failed
      · rw [Act.bind_apply_error ran]
        exact Or.inr ⟨e, rfl, some, f, display, hints ▸ failed⟩

/-- What a step has the echo area show: the fragments for the line of the cursor, if it rests and they are found. -/
def Step.shows? (s : Session) : Step → Option (List Value)
  | .deed .hold => (currentFragments s).outcome.toOption
  | _ => none

/-- All that some steps have the echo area show, in order. -/
def shownBy (s : Session) : List Step → List (List Value)
  | [] => []
  | step :: rest => (step.shows? s).toList ++ shownBy (step.after s) rest

private theorem last_hold (s : Session) :
    (hold s).state.area.last = (currentFragments s).outcome.toOption.getD s.area.last := by
  rcases currentFragments_cases s with ⟨values, t, found, -⟩ | ⟨e, failed, -⟩
  · rw [hold_of_found found, found, EchoArea.state_echo]
    rfl
  · rw [hold_of_failed failed, failed]
    rfl

private theorem last_effect (s : Session) (d : Deed) :
    (d.effect s).area.last = ((Step.deed d).shows? s).getD s.area.last := by
  cases d with
  | hold => exact last_hold s
  | closeBuffer | setCurrent | attach | attached =>
    rw [Deed.effect]
    split <;> rfl
  | openBuffer | setCursor | parse | enable | silence => rfl

private theorem area_doing (s : Session) (job : Client.Job) : (s.doing job).area = s.area := by
  cases job <;> (rw [doing]; split <;> rfl)

private theorem last_after (s : Session) (step : Step) :
    (step.after s).area.last = (step.shows? s).getD s.area.last := by
  have trans (s t u : Session) (first : t.area = s.area) (second : u.area = t.area) : u.area = s.area :=
    second.trans first
  cases step with
  | deed d =>
    rw [after_deed]
    exact last_effect s d
  | start client server command root =>
    have moved : (start client server command root).Moves fun s t => t.area = s.area :=
      moves_starting (R := fun s t => t.area = s.area) (fun _ => rfl) trans (fun _ => rfl) fun _ => rfl
    exact congrArg EchoArea.last (moved s)
  | stop =>
    have moved : stop.Moves fun s t => t.area = s.area :=
      moves_stopping (R := fun s t => t.area = s.area) (fun _ => rfl) trans fun _ _ => rfl
    exact congrArg EchoArea.last (moved s)
  | register | unregister => rfl
  | advance =>
    rw [after_advance]
    split
    · rfl
    · exact congrArg EchoArea.last (area_doing _ _)
  | respond index answer =>
    rw [after_respond]
    split <;> rfl
  | dispatch method r =>
    rw [after_dispatch]
    split <;> rfl

private theorem last_run (start : Session) (steps : List Step) :
    (start.run steps).area.last = (shownBy start steps).getLast?.getD start.area.last := by
  induction steps generalizing start with
  | nil => rfl
  | cons step rest ih =>
    have later : (start.run (step :: rest)).area.last =
        (shownBy (step.after start) rest).getLast?.getD ((step.shows? start).getD start.area.last) :=
      (ih (step.after start)).trans (by rw [last_after])
    rw [later, shownBy, List.getLast?_append]
    cases (shownBy (step.after start) rest).getLast? with
    | some values => rfl
    | none => cases step.shows? start <;> rfl

/-- What is on display after resting the cursor: nothing, or the fragments that were found for its line just then. -/
def UpToDate (s : Session) : Prop :=
  (hold s).state.area.last = [] ∨ (currentFragments s).outcome = .ok (hold s).state.area.last

/-- What is on display is what was shown last, whatever happened since. When the cursor rests, it is up to date unless
the line of the cursor cannot be shown while something is on display. Resting the cursor fails for that reason with
nothing written, and what was on display stays. -/
theorem upToDate_iff (start : Session) (steps : List Step) :
    (start.run steps).area.last = (shownBy start steps).getLast?.getD start.area.last ∧
      ((start.run steps).UpToDate ↔
        (start.run steps).area.last = [] ∨ ∀ e, ¬ (start.run steps).Unshowable e) ∧
      ∀ e, (start.run steps).Unshowable e → hold (start.run steps) = ⟨.error e, start.run steps, []⟩ := by
  refine ⟨last_run start steps, ?_⟩
  generalize start.run steps = s
  unfold UpToDate
  rcases currentFragments_cases s with ⟨values, t, found, fine⟩ | ⟨e, failed, unshowable⟩
  · have shown : (hold s).state.area.last = values := by
      rw [last_hold, found]
      rfl
    refine ⟨⟨fun _ => Or.inr fine, fun _ => Or.inr ?_⟩, fun e failed => (fine e failed).elim⟩
    rw [shown, found]
  · have held := hold_of_failed failed
    refine ⟨?_, ?_⟩
    · rw [held, failed]
      constructor
      · rintro (empty | found)
        · exact Or.inl empty
        · cases found
      · rintro (empty | fine)
        · exact Or.inl empty
        · exact (fine e unshowable).elim
    · rintro e' ⟨-, f, custom, other⟩
      obtain ⟨-, g, same, own⟩ := unshowable
      obtain rfl := Option.some.inj (custom.symm.trans same)
      rw [held, own.unique other]

/-- A display function that gives what the hints of the first line say, and fails on every other line. -/
private def ofFirstLine : Callable :=
  .ofDisplay "of_first_line" fun line hints =>
    if line = 1 then .ok (.list (hints.map fun h => .list [.str h.label, .str Echo.Highlight.type.name]))
    else .error (.raised .badValue "display failed")

private theorem line_le_bound (line : Fin 2) : line.val ≤ Position.bound := by
  have least : 1 ≤ Position.bound := by
    decide
  omega

/-- The answer to a request: one hint, behind the first character of one of the first two lines. -/
private def oneHint (request : Int) (line : Fin 2) : Response :=
  ⟨.number 1, .number 1, some request, none,
    some [⟨⟨line.val, (1 : Fin 2).val, line_le_bound line, line_le_bound 1⟩, .whole ": int", none⟩]⟩

/-- A session with a file open, a client that gives hints, and a hint on the first line. -/
private def hinted : Session :=
  (dispatch hintMethod (oneHint 1 0)
    (register (.number 1) ⟨true, .ok (), .ok ()⟩
      (openBuffer ⟨.here, ["a.toy"]⟩ "x = 1\ny = 2\n" "toy"
        (.new { Settings.standard (δ := Callable) with display := some ofFirstLine } ⟨[], [], []⟩
          (.new [] none) false)).state).state).state

/-- The cursor rests on the first line, which has a hint; then only the second has one, and the cursor goes there. -/
private def toSecondLine : List Step :=
  [.deed .hold, .dispatch hintMethod (oneHint 2 1), .deed (.setCursor ⟨2, 0⟩)]

/-- When the cursor rests on the second line, the hint of the first stays on display. -/
theorem first_line_stays :
    ¬ (hinted.run toSecondLine).UpToDate ∧
      (hinted.run (toSecondLine ++ [.deed .hold])).area.last = [.list [.str ": int", .str "Type"]] := by
  have hints : hinted.currentHints = [⟨": int", 1, none⟩] ∧
      (hinted.run toSecondLine).currentHints = [⟨": int", 1, none⟩] := by decide +kernel
  have found : (currentFragments hinted).outcome = .ok [.list [.str ": int", .str "Type"]] := by
    unfold currentFragments
    rw [Act.bind_apply_ok (Act.get_apply _), hints.1]
    rfl
  have failed : (currentFragments (hinted.run toSecondLine)).outcome = .error (.raised .badValue "display failed") := by
    have ran : hinted.run toSecondLine = (Deed.setCursor ⟨2, 0⟩).effect
        ((Step.dispatch hintMethod (oneHint 2 1)).after (Deed.hold.effect hinted)) := by
      simp only [run, toSecondLine, List.foldl_cons, List.foldl_nil, after_deed]
    unfold currentFragments
    rw [Act.bind_apply_ok (Act.get_apply _), hints.2, ran]
    rfl
  have before : (hinted.run toSecondLine).area.last = [.list [.str ": int", .str "Type"]] := by
    rw [last_run]
    simp [toSecondLine, shownBy, Step.shows?, found, Except.toOption]
  have stays : (hold (hinted.run toSecondLine)).state.area.last = [.list [.str ": int", .str "Type"]] := by
    rw [last_hold, failed]
    exact before
  refine ⟨?_, stays⟩
  rintro (empty | current)
  · rw [stays] at empty
    cases empty
  · rw [failed] at current
    cases current

end Session

end HintLine
