import HintLine.Proofs.InStep
import HintLine.Proofs.Session.Steps

/-!
Sessions that differ in their settings, in the cursor, or in what is on display. What a session does hardly depends on
these: messages for the user depend on one setting, and what is shown on the display and the cursor. All else goes in
step, but for hints that are asked for by themselves, which are left out here.
-/

set_option autoImplicit false

namespace HintLine

open HintLine.Plugin (Callable)
open HintLine.Terminal (EchoArea)

variable {sees : Effect → Bool}

/-- Whatever the outlet is told, it does not fail, and nobody sees what it does. -/
def Message.Unseen (sees : Effect → Bool) (outlet : Option Message.Outlet) : Prop :=
  ∀ pass ∈ outlet, ∀ text kind, ∃ t, pass text kind = .ok t ∧ t.filter sees = []

section Unseen

variable (logs : ∀ r, sees (.log r) = false)

include logs

private theorem Trace.filter_log (r : Log.Record) (t : Trace) : (Effect.log r :: t).filter sees = t.filter sees :=
  List.filter_cons_of_neg (by simp [logs])

private theorem Message.send_unseen {outlet : Option Message.Outlet} (unseen : Unseen sees outlet) {σ : Type}
    (text : String) (kind : Kind) (s : σ) : ∃ t, send outlet text kind s = ⟨.ok (), s, t⟩ ∧ t.filter sees = [] := by
  unfold send
  rw [Act.bind_apply_ok (Act.log_apply _ _ s)]
  cases outlet with
  | none => exact ⟨_, rfl, by simp [logs]⟩
  | some pass =>
    obtain ⟨t, passed, hidden⟩ := unseen pass rfl text kind
    dsimp only
    rw [passed]
    refine ⟨_, rfl, ?_⟩
    rw [List.singleton_append, Trace.filter_log logs]
    exact hidden

namespace Collector

private theorem bucketOf_unseen {env : Surroundings} (unseen : Message.Unseen sees env.outlet) (r : Response) {σ : Type}
    (s : σ) : ∃ t, bucketOf env r s = ⟨.ok (standsFor env r), s, t⟩ ∧ t.filter sees = [] := by
  have quiet (level : Log.Level) (text : String) : List.filter sees [.log ⟨level, text⟩] = [] :=
    Trace.filter_log logs _ _
  unfold bucketOf standsFor
  cases r.error with
  | some message =>
    dsimp only
    rw [Act.bind_apply_ok (Act.log_apply _ _ s)]
    cases env.notifies with
    | false => exact ⟨_, rfl, quiet _ _⟩
    | true =>
      obtain ⟨t, sent, hidden⟩ := Message.send_unseen logs unseen s!"Inlay hints: {message}" .error s
      rw [if_pos rfl, Act.bind_apply_ok sent]
      refine ⟨_, rfl, ?_⟩
      rw [List.singleton_append, Trace.filter_log logs, Act.pure_apply, List.append_nil, hidden]
  | none =>
    cases r.result with
    | none => exact ⟨_, rfl, quiet _ _⟩
    | some inlays =>
      dsimp only
      by_cases gives : r.client ≠ .absent ∧ env.supports r.client = true
      · rw [if_pos gives, if_neg (by simp [gives])]
        exact ⟨_, rfl, rfl⟩
      · rw [if_neg gives, if_pos (by simp only [Bool.or_eq_true, decide_eq_true_eq, Bool.not_eq_true']; grind)]
        exact ⟨_, rfl, quiet _ _⟩

private theorem inStep_receive {env : Surroundings} (r : Response) {notifies : Bool}
    (either : env.notifies = notifies ∨ Message.Unseen sees env.outlet) :
    Act.InStep sees Eq (receive env r) (receive { env with notifies } r) := by
  rcases either with rfl | unseen
  · exact Act.inStep_refl _
  have found : Act.InStep sees Eq (bucketOf env r : Act Collector Bucket) (bucketOf { env with notifies } r) := by
    rintro c _ rfl
    obtain ⟨t, ran, hidden⟩ := bucketOf_unseen logs unseen r c
    obtain ⟨u, went, unheard⟩ :=
      bucketOf_unseen logs (show Message.Unseen sees { env with notifies }.outlet from unseen) r c
    rw [ran, went]
    exact ⟨rfl, rfl, hidden.trans unheard.symm⟩
  unfold receive
  dsimp only
  split
  · exact Act.inStep_refl _
  split
  · exact Act.inStep_refl _
  · refine Act.inStep_get_bind ?_
    rintro c _ rfl
    split
    · exact Act.inStep_refl _
    · exact found.bind fun _ => Act.inStep_refl _

end Collector

end Unseen

section Steady

variable {σ : Type}

private theorem Forest.steady_nodeText (f : Forest) (b : Ident) (row column : Int) :
    (f.nodeText b row column : Act σ (Option String)).Steady := by
  unfold Forest.nodeText
  split
  · exact Act.steady_pure _
  · exact (Act.steady_log _ _).bind fun _ => Act.steady_pure _

namespace Echo

variable {scene : Scene σ} (steady : ∀ lookup ∈ scene.tree, ∀ b row column, (lookup b row column).Steady) (line : Int)

include steady

private theorem steady_content (hint : Hint) : (content scene line hint).Steady := by
  have value : (Hint.value scene.tree scene.buffer line hint.character).Steady := by
    unfold Hint.value
    split
    · exact Act.steady_pure _
    · exact Act.steady_pure _
    · exact Act.steady_pure _
    next lookup row column tree _ _ =>
      exact (Act.steady_emit _).bind fun _ => (steady lookup tree _ _ _).bind fun _ => Act.steady_pure _
  unfold content
  split
  · exact value.bind fun _ => Act.steady_pure _
  · exact Act.steady_pure _

private theorem steady_display (display : Display) (hints : List Hint) :
    (display.fragments scene line hints).Steady := by
  have fragments (last : Int) (opening : String) : (fragmentsFrom scene line last opening hints).Steady := by
    induction hints generalizing last opening with
    | nil => exact Act.steady_pure _
    | cons hint rest ih =>
      unfold fragmentsFrom
      refine (steady_content steady line hint).bind fun shown => ?_
      exact (ih _ _).bind fun more => Act.steady_pure _
  cases display with
  | standard => exact (fragments 0 "[").bind fun _ => Act.steady_pure _
  | custom f =>
    refine (Act.steady_ofExcept _).bind fun result => ?_
    split
    · exact (Act.steady_log _ _).bind fun _ => Act.steady_pure _
    · exact (Act.steady_ofResult _ _).bind fun _ => Act.steady_pure _

end Echo

end Steady

namespace Session

open HintLine.Client (Answer Connection Job Registry Server)

variable {P : Settings Callable → Settings Callable → Prop}

/-- Two sessions that differ at most in what is on display, in the cursor, and in settings, as far as these may differ.
What is shown has the styles of this library. -/
def Akin (P : Settings Callable → Settings Callable → Prop) (s t : Session) : Prop :=
  s.area.styles = .standard ∧ ∃ settings cursor last, P s.settings settings ∧
    t = { s with settings, editor := { s.editor with cursor }, area := { s.area with last } }

section Parts

variable {α : Type}

theorem inStep_onFiles (x : Act Files α) : Act.InStep sees (Akin P) (onFiles x) (onFiles x) := by
  refine Act.inStep_zoom ?_ ?_ (Act.inStep_refl x)
  · rintro s _ ⟨styles, settings, cursor, last, may, rfl⟩
    rfl
  · rintro s _ files ⟨styles, settings, cursor, last, may, rfl⟩
    exact ⟨styles, settings, cursor, last, may, rfl⟩

private theorem inStep_onRegistry (x : Act Registry α) : Act.InStep sees (Akin P) (onRegistry x) (onRegistry x) := by
  refine Act.inStep_zoom ?_ ?_ (Act.inStep_refl x)
  · rintro s _ ⟨styles, settings, cursor, last, may, rfl⟩
    rfl
  · rintro s _ registry ⟨styles, settings, cursor, last, may, rfl⟩
    exact ⟨styles, settings, cursor, last, may, rfl⟩

private theorem inStep_onCollector {x y : Act Collector α} (inStep : Act.InStep sees Eq x y) :
    Act.InStep sees (Akin P) (onCollector x) (onCollector y) := by
  refine Act.inStep_zoom ?_ ?_ inStep
  · rintro s _ ⟨styles, settings, cursor, last, may, rfl⟩
    rfl
  · rintro s _ collector ⟨styles, settings, cursor, last, may, rfl⟩
    exact ⟨styles, settings, cursor, last, may, rfl⟩

end Parts

theorem inStep_start (client : Ident) (server : Server) (command : String) (root : Path) :
    Act.InStep sees (Akin P) (start client server command root) (start client server command root) := by
  unfold start
  refine (inStep_onFiles _).bind fun _ => Act.inStep_get_bind ?_
  rintro s _ ⟨styles, settings, cursor, last, may, rfl⟩
  refine (Act.inStep_emit _).bind fun _ => (Act.inStep_ofExcept _).bind fun _ => (Act.inStep_emit _).bind fun _ => ?_
  exact (inStep_onRegistry _).bind fun _ => Act.inStep_emit _

theorem inStep_stop : Act.InStep sees (Akin P) stop stop := by
  have each (e : Ident × Connection) : Act.InStep sees (Akin P) (stopClient e.1 e.2) (stopClient e.1 e.2) := by
    unfold stopClient
    refine (Act.inStep_emit _).bind fun _ => (Act.inStep_emit _).bind fun _ => (Act.inStep_ofExcept _).bind fun _ => ?_
    exact (Act.inStep_emit _).bind fun _ => (Act.inStep_emit _).bind fun _ => inStep_onRegistry _
  unfold stop
  refine Act.inStep_get_bind ?_
  rintro s _ ⟨styles, settings, cursor, last, may, rfl⟩
  exact Act.inStep_forEach each _

theorem inStep_silence : Act.InStep sees (Akin P) silence silence := by
  refine Act.inStep_modify ?_
  rintro s _ ⟨styles, settings, cursor, last, may, rfl⟩
  exact ⟨styles, settings, cursor, last, may, rfl⟩

theorem inStep_closeBuffer (buffer : Ident) : Act.InStep sees (Akin P) (closeBuffer buffer) (closeBuffer buffer) := by
  have closing :
      Act.InStep sees (Akin P) (onEditor (Editor.closeBuffer buffer)) (onEditor (Editor.closeBuffer buffer)) := by
    rintro s _ ⟨styles, settings, cursor, last, may, rfl⟩
    exact ⟨rfl, ⟨styles, settings, cursor, last, may, rfl⟩, rfl⟩
  have falling : Act.InStep sees (Akin P) (fell buffer) (fell buffer) := by
    refine Act.inStep_modify ?_
    rintro s _ ⟨styles, settings, cursor, last, may, rfl⟩
    exact ⟨styles, settings, cursor, last, may, rfl⟩
  unfold closeBuffer
  refine closing.bind fun _ => Act.inStep_get_bind ?_
  rintro s _ ⟨styles, settings, cursor, last, may, rfl⟩
  dsimp only
  split
  · exact (inStep_onCollector (Act.inStep_refl _)).bind fun _ => falling
  · exact Act.inStep_pure _

theorem inStep_openBuffer (path : Path) (text languageId : String) :
    Act.InStep sees (Akin P) (openBuffer path text languageId) (openBuffer path text languageId) := by
  rintro s _ ⟨styles, settings, cursor, last, may, rfl⟩
  rw [openBuffer_apply, openBuffer_apply]
  exact ⟨rfl, ⟨styles, settings, .start, last, may, rfl⟩, rfl⟩

theorem inStep_attach (buffer client : Ident) :
    Act.InStep sees (Akin P) (attach buffer client) (attach buffer client) := by
  unfold attach
  refine Act.inStep_get_bind ?_
  rintro s _ ⟨styles, settings, cursor, last, may, rfl⟩
  exact inStep_onRegistry _

private theorem unseen_outlet (s : Session) (styles : s.area.styles = .standard)
    (hidden : ∀ text, sees (.err text) = false) : Message.Unseen sees s.outlet := by
  intro pass member text kind
  unfold outlet at member
  split at member
  · obtain rfl := Option.mem_some.1 member
    have formatted :
        ∃ shown, s.area.styles.format [Echo.Fragment.value ⟨text, EchoArea.messageHighlight kind⟩] = .ok shown := by
      rw [styles]
      cases kind <;> exact ⟨_, rfl⟩
    obtain ⟨shown, formatted⟩ := formatted
    refine ⟨[.err (s.area.written shown ++ "\n")], ?_, ?_⟩
    · unfold EchoArea.send
      rw [formatted]
      rfl
    · simp [hidden]
  · cases member

private theorem inStep_finish (request : Client.Request) {x y : Act Session Unit}
    (inStep : Act.InStep sees (Akin P) x y) : Act.InStep sees (Akin P) (finish request x) (finish request y) := by
  intro s t related
  exact Act.inStep_ensuring_at (inStep s t related) (inStep_onRegistry _)

section Logs

variable (logs : ∀ r, sees (.log r) = false)
  (reports : ∀ a b, P a b → a.notifyErrors = b.notifyErrors ∨ ∀ text, sees (.err text) = false)

include logs reports

private theorem inStep_collect (r : Response) : Act.InStep sees (Akin P) (collect r) (collect r) := by
  unfold collect
  refine Act.inStep_get_bind ?_
  rintro s _ ⟨styles, settings, cursor, last, may, rfl⟩
  have either : s.settings.notifyErrors = settings.notifyErrors ∨ Message.Unseen sees s.outlet := by
    refine (reports s.settings settings may).imp_right fun hidden => ?_
    exact s.unseen_outlet styles hidden
  exact inStep_onCollector (Collector.inStep_receive logs r either)

private theorem inStep_dispatch (method : String) (r : Response) :
    Act.InStep sees (Akin P) (dispatch method r) (dispatch method r) := by
  unfold dispatch dispatchTo
  rw [get?_handlers]
  by_cases wanted : method = hintMethod
  · rw [if_pos wanted]
    exact (Act.inStep_emit _).bind fun _ => inStep_collect logs reports r
  · rw [if_neg wanted]
    exact Act.inStep_emit _

private theorem inStep_perform (job : Job) : Act.InStep sees (Akin P) (perform job) (perform job) := by
  cases job with
  | send buffer client =>
    refine Act.inStep_get_bind ?_
    rintro s _ ⟨styles, settings, cursor, last, may, rfl⟩
    refine (inStep_onRegistry _).bind fun unable => ?_
    cases unable with
    | none => exact Act.inStep_pure _
    | some request => exact inStep_finish request (inStep_dispatch logs reports hintMethod _)
  | deliver request answer =>
    exact inStep_finish request ((Act.inStep_ofExcept _).bind fun r => inStep_dispatch logs reports hintMethod r)

private theorem inStep_advance : Act.InStep sees (Akin P) advance advance := by
  unfold advance advanceTo
  refine Act.inStep_get_bind ?_
  rintro s _ ⟨styles, settings, cursor, last, may, rfl⟩
  dsimp only
  split
  · exact Act.inStep_pure _
  · refine (Act.inStep_modify ?_).bind fun _ => inStep_perform logs reports _
    rintro s _ ⟨styles, settings, cursor, last, may, rfl⟩
    exact ⟨styles, settings, cursor, last, may, rfl⟩

private theorem inStep_settle : Act.InStep sees (Akin P) settle settle := by
  have by_ (n : Nat) : Act.InStep sees (Akin P) (advanceBy n) (advanceBy n) := by
    induction n with
    | zero => exact Act.inStep_pure _
    | succ n ih =>
      unfold advanceBy
      refine (inStep_advance logs reports).attempt.bind fun outcome => ih.bind fun faults => ?_
      cases outcome <;> exact Act.inStep_pure _
  unfold settle
  refine Act.inStep_get_bind ?_
  rintro s _ ⟨styles, settings, cursor, last, may, rfl⟩
  exact by_ _

theorem inStep_wait (answers : List Answer) : Act.InStep sees (Akin P) (wait answers) (wait answers) := by
  have settled : Act.InStep sees (Akin P) settle settle := inStep_settle logs reports
  unfold wait
  refine Act.inStep_get_bind ?_
  rintro s _ ⟨styles, settings, cursor, last, may, rfl⟩
  dsimp only
  split
  · exact Act.inStep_pure _
  refine settled.bind fun early => (inStep_onRegistry _).bind fun _ => settled.bind fun late => ?_
  cases early ++ late with
  | nil => exact Act.inStep_pure _
  | cons e faults => exact Act.inStep_fail e

end Logs

section Displays

variable (displays : ∀ a b, P a b → a.display = b.display)

include displays

private theorem currentFragments_same (s : Session) {settings : Settings Callable} (may : P s.settings settings)
    (last : List Value) : ∃ o t, currentFragments s = ⟨o, s, t⟩ ∧
      let akin : Session := { s with settings, area := { s.area with last } }
      currentFragments akin = ⟨o, akin, t⟩ := by
  let akin : Session := { s with settings, area := { s.area with last } }
  have display : akin.display = s.display := by
    unfold Session.display
    rw [displays s.settings settings may]
  have lookups : ∀ lookup ∈ s.scene.tree, ∀ b row column, (lookup b row column).Steady := by
    intro lookup member b row column
    obtain ⟨f, -, rfl⟩ := Option.map_eq_some_iff.1 (show s.forest.map Forest.nodeText = some lookup from member)
    exact f.steady_nodeText b row column
  cases hints : s.currentHints with
  | nil => exact ⟨.ok [], [], currentFragments_of_empty hints, currentFragments_of_empty (s := akin) hints⟩
  | cons hint rest =>
    obtain ⟨o, t, ran⟩ : Act.Steady (σ := Session) do
        return (← s.display.fragments s.scene s.editor.cursor.line (hint :: rest)).getD [] :=
      (Echo.steady_display lookups _ _ _).bind fun _ => Act.steady_pure _
    have others : akin.currentHints = hint :: rest := hints
    refine ⟨o, t, ?_, ?_⟩
    · unfold currentFragments
      rw [Act.bind_apply_ok (Act.get_apply s), hints]
      dsimp only
      rw [ran]
      rfl
    · change currentFragments akin = ⟨o, akin, t⟩
      unfold currentFragments
      rw [Act.bind_apply_ok (Act.get_apply akin), others, display]
      exact congrArg (fun r : Run Session (List Value) => (⟨r.outcome, r.state, [] ++ r.trace⟩ : Run _ _)) (ran akin)

theorem inStep_showing (cursor : Cursor) :
    Act.InStep sees (Akin P) (onEditor (Editor.setCursor cursor) >>= fun _ => hold)
      (onEditor (Editor.setCursor cursor) >>= fun _ => hold) := by
  rintro s _ ⟨styles, settings, before, last, may, rfl⟩
  let pointed : Session := { s with editor := { s.editor with cursor } }
  let akin : Session := { pointed with settings, area := { s.area with last } }
  obtain ⟨o, t, found, same⟩ := currentFragments_same displays pointed may last
  change currentFragments akin = ⟨o, akin, t⟩ at same
  have first : (onEditor (Editor.setCursor cursor) >>= fun _ => hold) s = hold pointed := rfl
  have second : (onEditor (Editor.setCursor cursor) >>= fun _ => hold)
      { s with settings, editor := { s.editor with cursor := before }, area := { s.area with last } } = hold akin := rfl
  rw [first, second]
  cases o with
  | error e =>
    rw [hold_of_failed found, hold_of_failed same]
    exact ⟨rfl, ⟨styles, settings, cursor, last, may, rfl⟩, rfl⟩
  | ok values =>
    -- What was on display is gone once something is echoed.
    have echoed : EchoArea.echo values akin.area = EchoArea.echo values pointed.area := rfl
    rw [hold_of_found found, hold_of_found same, echoed]
    have styled : (EchoArea.echo values pointed.area).state.styles = .standard := by
      rw [EchoArea.state_echo]
      exact styles
    exact ⟨rfl, ⟨styled, settings, cursor, (EchoArea.echo values pointed.area).state.last, may, rfl⟩, rfl⟩

end Displays

end Session

end HintLine
