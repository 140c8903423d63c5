import HintLine.Proofs.Session.Steps

/-!
What sorts of effects the actions of a session have. Each effect goes through one channel: the log, standard output,
standard error, or calls of one kind on clients. An action has its own channels, and what it does through the others is
nothing at all.
-/

set_option autoImplicit false

namespace HintLine

/-- What an effect goes through. The calls that start a server are apart from those that greet it, those that tell it of
a file, those that ask for hints, and those that stop it. -/
inductive Effect.Channel where
  | log
  | journal
  | lookup
  | output
  | errors
  | starting
  | greeting
  | telling
  | asking
  | stopping
  | message
  | closing
  | handling
  deriving DecidableEq

def Client.Call.channel : Call → Effect.Channel
  | create _ _ | launch _ _ => .starting
  | handshake _ _ | ready => .greeting
  | didOpen _ _ _ _ _ => .telling
  | inlayHint _ _ _ => .asking
  | shutdown _ | exit _ | stop _ => .stopping

namespace Effect

def channel : Effect → Channel
  | log _ | foreign _ => .log
  | journal _ => .journal
  | lookup _ _ _ => .lookup
  | out _ => .output
  | err _ => .errors
  | call c => c.channel
  | message _ _ => .message
  | closed _ _ => .closing
  | handled _ _ => .handling

def Through (channels : List Channel) (e : Effect) : Prop := e.channel ∈ channels

end Effect

open Effect (Channel Through)

namespace Trace

theorem output_append (s t : Trace) : output (s ++ t) = s.output ++ t.output := by
  unfold output
  rw [← String.toList_inj, String.toList_append, String.toList_join, String.toList_join, String.toList_join,
    List.map_append, List.flatMap_append]

theorem output_out (text : String) : output [.out text] = text := String.empty_append

theorem output_eq_empty {t : Trace} {cs : List Channel} (through : ∀ e ∈ t, e.Through cs) (other : .output ∉ cs) :
    t.output = "" := by
  have nothing : ∀ text ∈ t.map Effect.outText, text = "" := by
    intro text member
    obtain ⟨e, inside, rfl⟩ := List.mem_map.1 member
    have channel : e.channel ∈ cs := through e inside
    cases e with
    | out _ => exact (other channel).elim
    | _ => rfl
  unfold output
  rw [← String.toList_inj, String.toList_join]
  exact List.flatMap_eq_nil_iff.2 fun text member => by rw [nothing text member]; rfl

theorem handled_eq_nil {t : Trace} {cs : List Channel} (through : ∀ e ∈ t, e.Through cs) (other : .handling ∉ cs) :
    t.handled = [] := by
  unfold handled
  rw [List.filterMap_eq_nil_iff]
  intro e member
  have channel : e.channel ∈ cs := through e member
  cases e with
  | handled _ _ => exact (other channel).elim
  | _ => rfl

theorem Silent.through {t : Trace} (silent : t.Silent) : ∀ e ∈ t, e.Through [.log, .lookup] := by
  intro e member
  rcases silent e member with ⟨r, rfl⟩ | ⟨b, row, column, rfl⟩
  · exact List.mem_cons_self
  · exact List.mem_cons_of_mem _ List.mem_cons_self

end Trace

namespace Act

variable {σ τ α β : Type} {cs ds : List Channel}

theorem Tells.widen {x : Act σ α} (tells : x.Tells (Through cs)) (among : cs ⊆ ds) : x.Tells (Through ds) :=
  fun s e member => among (tells s e member)

theorem Tells.not_mem {x : Act σ α} (tells : x.Tells (Through cs)) {e : Effect} (other : e.channel ∉ cs) (s : σ) :
    e ∉ (x s).trace := fun member => other (tells s e member)

private theorem Finds.tells_through {x : Act σ α} {p : α → Prop} (finds : x.Finds p) :
    x.Tells (Through [.log, .lookup]) := by
  intro s
  exact Trace.Silent.through (finds.tells s)

theorem tells_log_through (level : Log.Level) (text : String) (own : .log ∈ cs) :
    (log level text : Act σ Unit).Tells (Through cs) := tells_log level text own

theorem tells_emit_through {e : Effect} (c : Channel) (through : e.channel = c) (own : c ∈ cs) :
    (emit e : Act σ Unit).Tells (Through cs) := by
  subst through
  exact tells_emit own

end Act

private theorem Terminal.EchoArea.through_send (area : Terminal.EchoArea) {text : String} {kind : Message.Kind}
    {t : Trace} (sent : area.send text kind = .ok t) : ∀ e ∈ t, e.Through [.errors] := by
  unfold Terminal.EchoArea.send at sent
  intro e member
  cases written : area.styles.format [Echo.Fragment.value ⟨text, messageHighlight kind⟩] with
  | error fault =>
    rw [written] at sent
    cases sent
  | ok s =>
    rw [written] at sent
    obtain rfl := Except.ok.inj sent
    rw [List.mem_singleton.1 member]
    exact List.mem_cons_self

namespace Message

/-- What an outlet does with messages goes through some channels alone. -/
def Outlet.Within (cs : List Channel) (outlet : Option Outlet) : Prop :=
  ∀ pass ∈ outlet, ∀ text kind t, pass text kind = .ok t → ∀ e ∈ t, e.Through cs

variable {cs : List Channel} {outlet : Option Outlet} (within : Outlet.Within cs outlet) (logs : .log ∈ cs)

include within logs

private theorem tells_send {σ : Type} (text : String) (kind : Kind) :
    (send outlet text kind : Act σ Unit).Tells (Through cs) := by
  unfold send
  refine (Act.tells_log_through _ _ logs).bind fun _ => ?_
  cases outlet with
  | none => exact Act.tells_log_through _ _ logs
  | some pass =>
    dsimp only
    cases passed : pass text kind with
    | error e => exact Act.tells_of_silent fun _ => rfl
    | ok t => exact fun s e member => within pass rfl text kind t passed e member

end Message

private theorem Collector.tells_receive {cs : List Channel} {env : Collector.Surroundings}
    (within : Message.Outlet.Within cs env.outlet) (logs : .log ∈ cs) (r : Response) :
    (Collector.receive env r).Tells (Through cs) := by
  have logged {σ : Type} (level : Log.Level) (text : String) : (Act.log level text : Act σ Unit).Tells (Through cs) :=
    Act.tells_log_through level text logs
  have bucket : (Collector.bucketOf env r : Act Collector Bucket).Tells (Through cs) := by
    unfold Collector.bucketOf
    split
    · refine (logged _ _).bind fun _ => ?_
      split
      · exact (Message.tells_send within logs _ _).bind fun _ => Act.tells_pure _
      · exact Act.tells_pure _
    · exact (logged _ _).bind fun _ => Act.tells_pure _
    · split
      · exact (logged _ _).bind fun _ => Act.tells_pure _
      · exact Act.tells_pure _
  unfold Collector.receive
  split
  · exact logged _ _
  split
  · exact (logged _ _).bind fun _ => Act.tells_modify _
  · refine Act.tells_get.bind fun c => ?_
    split
    · exact logged _ _
    · exact bucket.bind fun b => (Act.tells_modify _).bind fun _ => logged _ _

private theorem Echo.tells_display {σ : Type} {scene : Echo.Scene σ} (calm : scene.Calm) (display : Echo.Display)
    (line : Int) (hints : List Hint) : (display.fragments scene line hints).Tells (Through [.log, .lookup]) := by
  have fragments (last : Int) (opening : String) :
      (Echo.fragmentsFrom scene line last opening hints).Tells (Through [.log, .lookup]) := by
    induction hints generalizing last opening with
    | nil => exact Act.tells_pure _
    | cons hint rest ih =>
      unfold Echo.fragmentsFrom
      refine (Echo.finds_content calm line hint).tells_through.bind fun shown => ?_
      exact (ih _ _).bind fun more => Act.tells_pure _
  cases display with
  | standard => exact (fragments 0 "[").bind fun _ => Act.tells_pure _
  | custom f =>
    refine Act.Tells.bind (Act.tells_ofExcept _) fun result => ?_
    split
    · exact (Act.tells_log_through _ _ List.mem_cons_self).bind fun _ => Act.tells_pure _
    · exact (Act.tells_ofResult _ _).bind fun _ => Act.tells_pure _

namespace Session

open HintLine.Client (Answer Connection Job Registry Server)

private theorem within_outlet (s : Session) : Message.Outlet.Within [.errors] s.outlet := by
  intro pass member text kind t passed
  unfold outlet at member
  split at member
  · obtain rfl := Option.mem_some.1 member
    exact s.area.through_send passed
  · cases member

theorem tells_collect (r : Response) : (collect r).Tells (Through [.log, .errors]) := by
  refine Act.tells_get.bind fun s => ?_
  have within : Message.Outlet.Within [.log, .errors] s.surroundings.outlet := by
    intro pass member text kind t passed e told
    exact List.mem_cons_of_mem _ (s.within_outlet pass member text kind t passed e told)
  exact (Collector.tells_receive within List.mem_cons_self r).zoom _ _

theorem tells_dispatch (method : String) (r : Response) :
    (dispatch method r).Tells (Through [.log, .errors, .handling]) := by
  unfold dispatch dispatchTo
  rw [get?_handlers]
  by_cases wanted : method = hintMethod
  · rw [if_pos wanted]
    exact (Act.tells_emit_through .handling rfl (by decide)).bind fun _ => (tells_collect r).widen (by decide)
  · rw [if_neg wanted]
    exact Act.tells_log_through _ _ List.mem_cons_self

private theorem tells_finish {cs : List Channel} (request : Client.Request) {x : Act Session Unit}
    (tells : x.Tells (Through cs)) :
    (finish request x).Tells (Through cs) := tells.ensuring (Act.tells_of_silent fun _ => rfl)

private theorem tells_currentFragments : currentFragments.Tells (Through [.log, .lookup]) := by
  unfold currentFragments
  refine Act.tells_get.bind fun s => ?_
  split
  · exact Act.tells_pure _
  · exact (Echo.tells_display s.calm_scene s.display _ _).bind fun _ => Act.tells_pure _

theorem tells_hold : hold.Tells (Through [.log, .lookup, .output]) := by
  have echo (values : List Value) : (Terminal.EchoArea.echo values).Tells (Through [.log, .lookup, .output]) := by
    unfold Terminal.EchoArea.echo
    refine (Act.tells_modify _).bind fun _ => Act.tells_get.bind fun area => ?_
    exact (Act.tells_ofExcept _).bind fun text => Act.tells_emit_through .output rfl (by decide)
  exact (tells_currentFragments.widen (by decide)).bind fun values => (echo values).zoom _ _

theorem tells_attach (buffer client : Ident) : (attach buffer client).Tells (Through [.telling]) := by
  unfold attach
  refine Act.tells_get.bind fun s => Act.Tells.zoom ?_ _ _
  unfold Registry.attach
  refine Act.tells_get.bind fun reg => ?_
  split
  · refine (Act.tells_emit_through .telling rfl List.mem_cons_self).bind fun _ => ?_
    exact (Act.tells_ofExcept _).bind fun _ => Act.tells_modify _
  · exact Act.tells_fail _

theorem tells_enable (buffer : Ident) : (enable buffer).Tells (Through []) := Act.tells_of_silent fun _ => rfl

theorem tells_attached (buffer client : Ident) : (attached buffer client).Tells (Through [.log]) := by
  unfold attached
  refine Act.tells_get.bind fun s => ?_
  split
  · split
    · exact (Act.tells_log_through _ _ List.mem_cons_self).bind fun _ => (tells_enable buffer).widen (by decide)
    · exact Act.tells_log_through _ _ List.mem_cons_self
  · exact Act.tells_pure _

theorem tells_closeBuffer (buffer : Ident) : (closeBuffer buffer).Tells (Through [.closing]) := by
  have closing : (Editor.closeBuffer buffer).Tells (Through [.closing]) := by
    unfold Editor.closeBuffer
    refine (Act.tells_modify _).bind fun _ => Act.tells_get.bind fun ed => Act.tells_emits ?_
    intro e told
    obtain ⟨l, -, rfl⟩ := List.mem_map.1 told
    exact List.mem_cons_self
  unfold closeBuffer
  refine (closing.zoom _ _).bind fun _ => Act.tells_get.bind fun s => ?_
  split
  · exact (Act.tells_of_silent fun _ => rfl).bind fun _ => Act.tells_modify _
  · exact Act.tells_pure _

theorem tells_deed (d : Deed) : d.act.Tells (Through [.log, .lookup, .output, .telling, .closing]) := by
  cases d with
  | openBuffer path text languageId =>
    intro s e member
    change e ∈ ([.log _] : Trace) at member
    rw [List.mem_singleton.1 member]
    exact List.mem_cons_self
  | closeBuffer buffer => exact (tells_closeBuffer buffer).widen (by decide)
  | setCurrent buffer =>
    refine Act.Tells.zoom (Act.tells_get.bind fun ed => ?_) _ _
    split
    · exact Act.tells_modify _
    · exact Act.tells_fail _
  | setCursor cursor => exact Act.tells_of_silent fun _ => rfl
  | parse buffer text => exact Act.tells_modify _
  | attach buffer client => exact (tells_attach buffer client).widen (by decide)
  | attached buffer client => exact (tells_attached buffer client).widen (by decide)
  | enable buffer => exact (tells_enable buffer).widen (by decide)
  | hold => exact tells_hold.widen (by decide)
  | silence => exact Act.tells_modify _

theorem tells_launch (server : Server) (command : String) (root : Path) :
    (Client.launch server command root).Tells (Through [.starting]) := by
  unfold Client.launch
  refine (Act.tells_emit_through .starting rfl List.mem_cons_self).bind fun _ => ?_
  refine (Act.tells_ofResult _ _).bind fun argv => ?_
  split
  · exact Act.tells_fail _
  · unfold Files.within
    refine Act.tells_get.bind fun before => Act.tells_get.bind fun fs => ?_
    refine (Act.tells_ofResult _ _).bind fun place => (Act.tells_modify _).bind fun _ => ?_
    refine Act.Tells.ensuring (Act.tells_get.bind fun fs => ?_) (Act.tells_modify _)
    exact (Act.tells_emit_through .starting rfl List.mem_cons_self).bind fun _ => Act.tells_ofExcept _

theorem tells_start (client : Ident) (server : Server) (command : String) (root : Path) :
    (start client server command root).Tells (Through [.log, .starting, .greeting]) := by
  have launching : (Client.launch server command root).Tells (Through [.log, .starting, .greeting]) :=
    (tells_launch server command root).widen (by decide)
  unfold start
  refine (launching.zoom _ _).bind fun _ => Act.tells_get.bind fun s => ?_
  refine (Act.tells_emit_through .greeting rfl (by decide)).bind fun _ => (Act.tells_ofExcept _).bind fun _ => ?_
  refine (Act.tells_emit_through .greeting rfl (by decide)).bind fun _ => ?_
  exact (Act.tells_of_silent fun _ => rfl).bind fun _ => Act.tells_log_through _ _ List.mem_cons_self

theorem tells_stop : stop.Tells (Through [.log, .stopping]) := by
  have called (c : Client.Call) (stops : c.channel = .stopping) :
      (Act.emit (.call c) : Act Session Unit).Tells (Through [.log, .stopping]) :=
    Act.tells_emit_through .stopping stops (by decide)
  have each (e : Ident × Connection) : (stopClient e.1 e.2).Tells (Through [.log, .stopping]) := by
    unfold stopClient
    refine (Act.tells_log_through _ _ List.mem_cons_self).bind fun _ => ?_
    refine (called (.shutdown e.1) rfl).bind fun _ => (Act.tells_ofExcept _).bind fun _ => ?_
    refine (called (.exit e.1) rfl).bind fun _ => (called (.stop e.1) rfl).bind fun _ => ?_
    exact Act.tells_of_silent fun _ => rfl
  exact Act.tells_get.bind fun s => Act.tells_forEach each _

theorem tells_respond (index : Nat) (answer : Answer) : (respond index answer).Tells (Through []) := by
  refine Act.tells_get.bind fun s => ?_
  split
  · exact Act.tells_pure _
  · exact (Act.tells_modify _).bind fun _ => Act.tells_pure _

theorem tells_deliver (request : Client.Request) (answer : Answer) :
    (perform (.deliver request answer)).Tells (Through [.log, .errors, .handling]) :=
  tells_finish request ((Act.tells_ofExcept _).bind fun r => tells_dispatch hintMethod r)

private theorem tells_perform (job : Job) : (perform job).Tells (Through [.log, .errors, .asking, .handling]) := by
  cases job with
  | send buffer client =>
    refine Act.tells_get.bind fun s => ?_
    have sent : (Registry.send s.editor.buffer? buffer client).Tells (Through [.log, .errors, .asking, .handling]) := by
      unfold Registry.send
      refine Act.tells_get.bind fun reg => (Act.tells_modify _).bind fun _ => ?_
      split
      · refine (Act.tells_emit_through .asking rfl (by decide)).bind fun _ => ?_
        exact (Act.tells_modify _).bind fun _ => Act.tells_pure _
      · exact (Act.tells_log_through _ _ List.mem_cons_self).bind fun _ => Act.tells_pure _
    refine (sent.zoom _ _).bind fun unable => ?_
    cases unable with
    | none => exact Act.tells_pure _
    | some request => exact tells_finish request ((tells_dispatch hintMethod _).widen (by decide))
  | deliver request answer => exact (tells_deliver request answer).widen (by decide)

private theorem tells_advance : advance.Tells (Through [.log, .errors, .asking, .handling]) := by
  unfold advance advanceTo
  refine Act.tells_get.bind fun s => ?_
  split
  · exact Act.tells_pure _
  · exact (Act.tells_modify _).bind fun _ => tells_perform _

private theorem tells_advanceBy (n : Nat) : (advanceBy n).Tells (Through [.log, .errors, .asking, .handling]) := by
  induction n with
  | zero => exact Act.tells_pure _
  | succ n ih =>
    have attempted : (Act.attempt advance).Tells (Through [.log, .errors, .asking, .handling]) := tells_advance
    refine attempted.bind fun outcome => ih.bind fun faults => ?_
    cases outcome <;> exact Act.tells_pure _

theorem tells_wait (answers : List Answer) :
    (wait answers).Tells (Through [.log, .errors, .asking, .handling]) := by
  have settled : settle.Tells (Through [.log, .errors, .asking, .handling]) :=
    Act.tells_get.bind fun s => tells_advanceBy _
  unfold wait
  refine Act.tells_get.bind fun s => ?_
  split
  · exact Act.tells_pure _
  refine settled.bind fun early => ?_
  refine Act.Tells.bind (Act.tells_of_silent fun _ => rfl) fun _ => settled.bind fun late => ?_
  cases early ++ late with
  | nil => exact Act.tells_pure _
  | cons e faults => exact Act.tells_fail _

end Session

end HintLine
