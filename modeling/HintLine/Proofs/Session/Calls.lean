import HintLine.Proofs.Session.Turns
import HintLine.Proofs.Session.Waiting

/-!
The order of the calls on clients. A request for hints is the only effect of its kind, and only doing a job that is due
has it. At that moment the buffer is open and the client is there; and the history shows that hints were enabled in
the buffer, and that the client, registered only once, went along when it was told of it.
-/

set_option autoImplicit false

namespace HintLine

open HintLine.Client (Job Registry)

namespace Trace

/-- How often hints are asked for. -/
def requestCount (t : Trace) : Nat := t.countP fun e => e.channel = .asking

theorem requestCount_append (s t : Trace) : requestCount (s ++ t) = s.requestCount + t.requestCount :=
  List.countP_append

theorem requestCount_eq_zero {t : Trace} {cs : List Effect.Channel} (through : ∀ e ∈ t, e.Through cs)
    (other : .asking ∉ cs) : t.requestCount = 0 := by
  refine List.countP_eq_zero.2 fun e member asks => other ?_
  rw [← of_decide_eq_true asks]
  exact through e member

end Trace

namespace Session

private theorem trace_advance (s : Session) :
    (advance s).trace =
      match s.registry.due with
      | [] => []
      | job :: due => (perform job (s.withDue due)).trace := by
  unfold advance perform
  split
  next none => rw [advanceTo_nil _ none]
  next job due jobs => rw [advanceTo_cons _ jobs]

private theorem asks_other {cs : List Effect.Channel} (other : Effect.Channel.asking ∉ cs) {client : Ident}
    {uri : String} {lines : Nat} : (Effect.call (.inlayHint client uri lines)).channel ∉ cs := other

private theorem sent_of_perform {s : Session} {job : Job} {client : Ident} {uri : String} {lines : Nat}
    (called : Effect.call (.inlayHint client uri lines) ∈ (perform job s).trace) :
    ∃ buffer b, job = .send buffer client ∧ s.editor.buffer? buffer = some b ∧ b.uri = uri ∧ b.lineCount = lines ∧
      s.registry.clients.contains client = true := by
  cases job with
  | deliver r answer =>
    exact ((tells_deliver r answer).not_mem (asks_other (by decide)) s called).elim
  | send buffer c =>
    unfold perform at called
    cases able : s.canSend buffer c with
    | true =>
      obtain ⟨b, found, sent⟩ := performTo_sent (dispatch hintMethod) able
      rw [sent] at called
      have same : Effect.call (.inlayHint client uri lines) = .call (.inlayHint c b.uri b.lineCount) := by
        simpa using called
      injection same with same
      injection same with own address covers
      rw [canSend, Bool.and_eq_true] at able
      exact ⟨buffer, b, by rw [own], found, address.symm, covers.symm, own ▸ able.2⟩
    | false =>
      obtain ⟨r, gone⟩ := performTo_gone (dispatch hintMethod) able
      rw [gone] at called
      rcases List.mem_cons.1 called with logged | told
      · cases logged
      · exact ((tells_dispatch _ _).not_mem (asks_other (by decide)) _ told).elim

theorem requestCount_perform (job : Job) (s : Session) :
    (perform job s).trace.requestCount =
      match job with
      | .send buffer client => if s.canSend buffer client then 1 else 0
      | .deliver _ _ => 0 := by
  cases job with
  | deliver r answer =>
    exact Trace.requestCount_eq_zero (tells_deliver r answer s) (by decide)
  | send buffer client =>
    unfold perform
    dsimp only
    cases able : s.canSend buffer client with
    | true =>
      obtain ⟨b, -, sent⟩ := performTo_sent (dispatch hintMethod) able
      rw [sent]
      rfl
    | false =>
      obtain ⟨r, gone⟩ := performTo_gone (dispatch hintMethod) able
      have told := tells_dispatch hintMethod (s.nextRequest buffer client).unanswered s.numbering
      rw [gone]
      show Trace.requestCount ([.log r] ++ _) = 0
      rw [Trace.requestCount_append, Trace.requestCount_eq_zero told (by decide)]
      rfl

theorem trace_settle_of_single {s : Session} {job : Job} (single : s.registry.due = [job]) :
    (settle s).trace = (perform job (s.withDue [])).trace := by
  obtain ⟨faults, ran⟩ := settle_eq s
  have one : s.traced [.advance] = (advance s).trace := List.append_nil _
  rw [ran, single]
  exact one.trans (by rw [trace_advance, single])

private theorem due_of_called {s : Session} {turn : Turn} {client : Ident} {uri : String} {lines : Nat}
    (called : Effect.call (.inlayHint client uri lines) ∈ (turn.act s).trace) :
    ∃ buffer b, Job.send buffer client ∈ s.registry.due ∧ s.editor.buffer? buffer = some b ∧ b.uri = uri ∧
      b.lineCount = lines ∧ s.registry.clients.contains client = true := by
  have never {x : Act Session Unit} {cs : List Effect.Channel} (tells : x.Tells (Effect.Through cs))
      (called : Effect.call (.inlayHint client uri lines) ∈ (x s).trace)
      (other : Effect.Channel.asking ∉ cs) : False := tells.not_mem (asks_other other) s called
  cases turn with
  | reform => cases called
  | step taken =>
    cases taken with
    | deed d => exact (never (tells_deed d) called (by decide)).elim
    | register => cases called
    | unregister => cases called
    | start i server command root => exact (never (tells_start i server command root) called (by decide)).elim
    | stop => exact (never tells_stop called (by decide)).elim
    | respond index answer =>
      have quiet : (Step.respond index answer).act.Tells (Effect.Through []) :=
        (tells_respond index answer).bind fun _ => Act.tells_pure _
      exact (never quiet called (by decide)).elim
    | dispatch method r => exact (never (tells_dispatch method r) called (by decide)).elim
    | advance =>
      change _ ∈ (advance s).trace at called
      rw [trace_advance] at called
      cases jobs : s.registry.due with
      | nil =>
        rw [jobs] at called
        cases called
      | cons job due =>
        rw [jobs] at called
        obtain ⟨buffer, b, rfl, rest⟩ := sent_of_perform called
        exact ⟨buffer, b, List.mem_cons_self, rest⟩

private theorem editor_after_turn (s : Session) (turn : Turn) (other : ∀ d, turn ≠ .step (.deed d)) :
    (turn.after s).editor = s.editor := by
  cases turn with
  | reform => rfl
  | step taken => exact editor_after s taken fun d same => other d (congrArg Turn.step same)

private theorem sound_after {s : Session} (sound : s.editor.Sound) (turn : Turn) :
    (turn.after s).editor.Sound ∧ s.editor.nextId ≤ (turn.after s).editor.nextId ∧
      ∀ n < s.editor.nextId, (turn.after s).editor.buffer? (.number n) = s.editor.buffer? (.number n) ∨
        (turn.after s).editor.buffer? (.number n) = none := by
  by_cases some : ∃ d, turn = .step (.deed d)
  · obtain ⟨d, rfl⟩ := some
    have left : (Turn.step (.deed d)).after s = d.effect s := d.state_act s
    rw [left]
    cases d with
    | openBuffer path text languageId =>
      refine ⟨sound.opened _ _ _, Nat.le_succ _, fun n given => Or.inl ?_⟩
      have other : Ident.number n ≠ .number s.editor.nextId := by
        intro same
        have number : (n : Int) = s.editor.nextId := Ident.number.inj same
        omega
      exact (Editor.buffer?_opened _ _ _ _ _).trans (if_neg other)
    | closeBuffer buffer =>
      have closed : ((Deed.closeBuffer buffer).effect s).editor = s.editor.closed buffer := by
        rw [Deed.effect]
        split <;> rfl
      rw [closed]
      refine ⟨sound.closed buffer, Nat.le_refl _, fun n _ => ?_⟩
      rw [Editor.buffer?_closed]
      split
      · exact Or.inr rfl
      · exact Or.inl rfl
    | setCurrent buffer =>
      rw [Deed.effect]
      split
      next isOpen => exact ⟨sound.setCurrent isOpen, Nat.le_refl _, fun _ _ => Or.inl rfl⟩
      next => exact ⟨sound, Nat.le_refl _, fun _ _ => Or.inl rfl⟩
    | setCursor cursor => exact ⟨sound.setCursor cursor, Nat.le_refl _, fun _ _ => Or.inl rfl⟩
    | attach | attached =>
      rw [Deed.effect]
      split <;> exact ⟨sound, Nat.le_refl _, fun _ _ => Or.inl rfl⟩
    | parse | enable | hold | silence => exact ⟨sound, Nat.le_refl _, fun _ _ => Or.inl rfl⟩
  · rw [editor_after_turn s turn fun d same => some ⟨d, same⟩]
    exact ⟨sound, Nat.le_refl _, fun _ _ => Or.inl rfl⟩

private theorem sound_play {s : Session} (sound : s.editor.Sound) (turns : List Turn) :
    (s.play turns).editor.Sound := by
  induction turns generalizing s with
  | nil => exact sound
  | cons turn turns ih => exact ih (sound_after sound turn).1

private theorem buffer?_play {s : Session} (sound : s.editor.Sound) {n : Nat} (given : n < s.editor.nextId)
    (turns : List Turn) :
    (s.play turns).editor.buffer? (.number n) = s.editor.buffer? (.number n) ∨
      (s.play turns).editor.buffer? (.number n) = none := by
  induction turns generalizing s with
  | nil => exact Or.inl rfl
  | cons turn turns ih =>
    obtain ⟨kept, grows, same⟩ := sound_after sound turn
    rcases ih kept (Nat.lt_of_lt_of_le given grows) with later | gone
    · rcases same n given with before | closed
      · exact Or.inl (later.trans before)
      · exact Or.inr (later.trans closed)
    · exact Or.inr gone

/-- Hints were enabled in a buffer at some time, and a client was among those to be asked for them. -/
def Enabled (start : Session) (history : List Turn) (buffer client : Ident) : Prop :=
  ∃ first turn later, history = first ++ turn :: later ∧ (buffer, client) ∈ turn.asks (start.play first)

/-- A client was told that a buffer was opened and went along, and no other was registered under its name since. -/
def Told (start : Session) (history : List Turn) (b : Buffer) (client : Ident) : Prop :=
  ∃ first later, history = first ++ .step (.deed (.attach b.ident client)) :: later ∧
    (attach b.ident client (start.play first)).outcome = .ok () ∧
    Effect.call (.didOpen client b.uri b.languageId b.version b.text) ∈
      (attach b.ident client (start.play first)).trace ∧
    client ∉ (start.play first).registrations (.step (.deed (.attach b.ident client)) :: later)

private theorem enabled_of_due {start : Session} (idle : start.registry = .new) {turns : List Turn}
    {buffer client : Ident} (due : Job.send buffer client ∈ (start.play turns).registry.due) :
    start.Enabled turns buffer client := by
  refine brought_about (p := fun s => Job.send buffer client ∈ s.registry.due)
    (q := fun s turn => (buffer, client) ∈ turn.asks s) ?_ ?_ due
  · intro s turn after
    have bound := count_due_after s turn (buffer, client)
    by_cases asks : (buffer, client) ∈ turn.asks s
    · exact Or.inr asks
    · rw [List.count_eq_zero.2 asks] at bound
      have before : 0 < s.registry.due.count (sending (buffer, client)) :=
        Nat.lt_of_lt_of_le (List.count_pos_iff.2 after) bound
      exact Or.inl (List.count_pos_iff.1 before)
  · rw [idle]
    exact List.not_mem_nil

private theorem attaches_of_mem {start : Session} (idle : start.registry = .new) {turns : List Turn}
    {buffer client : Ident} (member : client ∈ (start.play turns).registry.attachedTo buffer) :
    ∃ first turn later, turns = first ++ turn :: later ∧ turn.Attaches (start.play first) buffer client := by
  refine brought_about (p := fun s => client ∈ s.registry.attachedTo buffer)
    (q := fun s turn => turn.Attaches s buffer client) ?_ ?_ member
  · intro s turn after
    rcases count_attachedTo_after s turn buffer client with fewer | ⟨attaches, -⟩
    · exact Or.inl (List.count_pos_iff.1 (Nat.lt_of_lt_of_le (List.count_pos_iff.2 after) fewer))
    · exact Or.inr attaches
  · rw [idle]
    exact List.not_mem_nil

private theorem mem_registrations_of_contains {start : Session} (idle : start.registry = .new) {turns : List Turn}
    {client : Ident} (there : (start.play turns).registry.clients.contains client = true) :
    client ∈ start.registrations turns := by
  have absent : ¬ start.registry.clients.contains client = true := by
    rw [idle]
    exact Bool.false_ne_true
  obtain ⟨first, turn, later, rfl, registers⟩ :=
    brought_about (p := fun s => s.registry.clients.contains client = true) (fun _ _ => contains_after) absent there
  rw [registrations_append, registrations, registers]
  exact List.mem_append_right _ (List.mem_append_left _ (by simp))

private theorem told_of_enabled {start : Session} (sound : start.editor.Sound) (idle : start.registry = .new)
    {before : List Turn} (once : (start.registrations before).Nodup) {buffer client : Ident}
    (enabled : start.Enabled before buffer client) {b : Buffer}
    (found : (start.play before).editor.buffer? buffer = some b) : buffer = b.ident ∧ start.Told before b client := by
  obtain ⟨earlier, turn, later, rfl, asks⟩ := enabled
  obtain ⟨first, _, rest, rfl, rfl, went⟩ := attaches_of_mem idle (mem_attachedTo_of_asks asks)
  have able := (outcome_attach buffer client _).1 went
  rcases attach_cases buffer client (start.play first) with ⟨-, there, opened, isOpen, ran⟩ | ⟨unable, -⟩
  · have soundThen := sound_play sound first
    obtain ⟨rfl, given⟩ := soundThen.ident buffer opened isOpen
    -- The buffer is still the one that the client was told of, as its name is given only once.
    have same : opened = b := by
      rw [List.append_assoc, play_append] at found
      rcases buffer?_play soundThen given _ with kept | closed
      · rw [show Ident.number opened.id = opened.ident from rfl, found] at kept
        exact Option.some.inj (isOpen.symm.trans kept.symm)
      · rw [show Ident.number opened.id = opened.ident from rfl, found] at closed
        cases closed
    subst same
    have registered := mem_registrations_of_contains idle there
    rw [List.append_assoc, registrations_append] at once
    have never := (List.nodup_append.1 once).2.2 client registered
    refine ⟨rfl, first, rest ++ turn :: later, by simp, went, ?_, fun again => never client again rfl⟩
    rw [ran]
    exact List.mem_singleton.2 rfl
  · rw [able] at unable
    cases unable

/-- The order of calls, where no client is registered twice under one name. A client that is asked for hints is
registered, the buffer is open and hints were enabled in it, and the client went along when it was told of that very
buffer. Attaching that fails changes nothing at all. -/
theorem asked_in_order {start : Session} (sound : start.editor.Sound) (idle : start.registry = .new)
    (turns : List Turn) (once : (start.registrations turns).Nodup) :
    (∀ before turn after client uri lines, turns = before ++ turn :: after →
      Effect.call (.inlayHint client uri lines) ∈ (turn.act (start.play before)).trace →
        (start.play before).registry.clients.contains client = true ∧
          ∃ b, (start.play before).editor.buffer? b.ident = some b ∧ b.uri = uri ∧
            start.Enabled before b.ident client ∧ start.Told before b client) ∧
      ∀ s buffer client e, (attach buffer client s).outcome = .error e → (attach buffer client s).state = s := by
  constructor
  · rintro before turn after client uri lines split called
    obtain ⟨buffer, b, due, found, address, -, there⟩ := due_of_called called
    have enabled := enabled_of_due idle due
    rw [split, registrations_append] at once
    obtain ⟨rfl, told⟩ := told_of_enabled sound idle (List.nodup_append.1 once).1 enabled found
    exact ⟨there, b, found, address, enabled, told⟩
  · intro s buffer client e failed
    rcases attach_cases buffer client s with ⟨-, -, b, -, ran⟩ | ⟨-, fault, t, ran⟩
    · rw [ran] at failed
      cases failed
    · rw [ran]

private def untouched : Session := .new .standard ⟨[], [], []⟩ (.new [] none) false

/-- Hints are enabled in a file that a client was told of. -/
private def inOrder : List Turn :=
  [.step (.register (.number 1) ⟨true, .ok (), .ok ()⟩),
    .step (.deed (.openBuffer ⟨.here, ["a.toy"]⟩ "x = 1" "toy")),
    .step (.deed (.attach (.number 1) (.number 1))),
    .step (.deed (.enable (.number 1)))]

theorem asked_in_order_once :
    untouched.editor.Sound ∧ untouched.registry = .new ∧
      (untouched.registrations (inOrder ++ [.step .advance])).Nodup ∧
      Effect.call (.inlayHint (.number 1) "file:///a.toy" 1) ∈
        ((Turn.step .advance).act (untouched.play inOrder)).trace ∧
      ∃ b, b.uri = "file:///a.toy" ∧ untouched.Told inOrder b (.number 1) := by
  have once : (untouched.registrations (inOrder ++ [.step .advance])).Nodup := by decide
  have called : Effect.call (.inlayHint (.number 1) "file:///a.toy" 1) ∈
      ((Turn.step .advance).act (untouched.play inOrder)).trace := by decide +kernel
  obtain ⟨asked, -⟩ := asked_in_order (show untouched.editor.Sound from Editor.sound_new)
    (show untouched.registry = .new from rfl) _ once
  obtain ⟨-, b, -, address, -, told⟩ := asked inOrder _ [] _ _ _ rfl called
  exact ⟨Editor.sound_new, rfl, once, called, b, address, told⟩

end Session

end HintLine
