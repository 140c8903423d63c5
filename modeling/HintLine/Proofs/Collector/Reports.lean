import HintLine.Proofs.Collector.History

/-!
Which errors the user is told of. Around a collector buffers open and close, clients begin and cease to give hints, and
senders of messages are registered, one in place of the other. An error is reported if reports are wanted and the
response that carries it is taken in: it names a buffer that is open, and no later request was answered before. Each
such error is one message to the sender of the moment, and nothing else is heard of a collector.
-/

set_option autoImplicit false

namespace HintLine.Collector

/-- A sender of messages, which does what it does without failing. -/
abbrev Sender := (text : String) → Message.Kind → Trace

def Sender.outlet (pass : Sender) : Message.Outlet := fun text kind => .ok (pass text kind)

/-- What happens to a collector and around it. -/
inductive Happening where
  | registered (sender : Option Sender)
  | opened (buffer : Ident)
  | closed (buffer : Ident)
  | supporting (client : Ident) (gives : Bool)
  | responded (r : Response)
  | forgotten (buffer : Ident)

namespace Happening

def sender? : Happening → Option (Option Sender)
  | registered sender => some sender
  | _ => none

/-- Whether a buffer is open from now on, if that is what happens. -/
def validity? (buffer : Ident) : Happening → Option Bool
  | opened b => if b = buffer then some true else none
  | closed b => if b = buffer then some false else none
  | _ => none

/-- Whether a client gives hints from now on, if that is what happens. -/
def support? (client : Ident) : Happening → Option Bool
  | supporting c gives => if c = client then some gives else none
  | _ => none

end Happening

/-- What was said last of a matter. -/
def latest {α : Type} (said : Happening → Option α) (before : List Happening) (otherwise : α) : α :=
  (before.filterMap said).getLast?.getD otherwise

/-- The sender that was registered last. -/
def senderAfter (before : List Happening) : Option Sender := latest Happening.sender? before none

section Replay

variable (notifies : Bool)

/-- The surroundings that all that happened before has left. -/
def surroundingsAfter (before : List Happening) : Surroundings where
  isOpen buffer := latest (Happening.validity? buffer) before false
  supports client := latest (Happening.support? client) before false
  notifies := notifies
  outlet := (senderAfter before).map Sender.outlet

def happen (env : Surroundings) : Happening → Act Collector Unit
  | .responded r => receive env r
  | .forgotten buffer => Act.modify (forget · buffer)
  | _ => pure ()

/-- All that happens after what happened before, in order. -/
def replay (before : List Happening) : List Happening → Act Collector Unit
  | [] => pure ()
  | h :: rest => do
    happen (surroundingsAfter notifies before) h
    replay (before ++ [h]) rest

/-- What happens, as far as it reaches the collector. -/
def event? (before : List Happening) : Happening → Option Event
  | .responded r => some (.delivered ⟨surroundingsAfter notifies before, r⟩)
  | .forgotten buffer => some (.forgotten buffer)
  | _ => none

def events (before : List Happening) : List Happening → List Event
  | [] => []
  | h :: rest => (event? notifies before h).toList ++ events (before ++ [h]) rest

/-- A response is taken in: it names a buffer, which is open, and no later request was answered before. -/
structure TakenIn (before : List Happening) (r : Response) : Prop where
  named : r.buffer ≠ .absent
  isOpen : (surroundingsAfter notifies before).isOpen r.buffer = true
  inTime : ∀ n ∈ r.request, ∀ m ∈ requests (since r.buffer (events notifies [] before)), m ≤ n

instance (before : List Happening) (r : Response) : Decidable (TakenIn notifies before r) :=
  decidable_of_iff
    (r.buffer ≠ .absent ∧ (surroundingsAfter notifies before).isOpen r.buffer = true ∧
      ∀ n ∈ r.request, ∀ m ∈ requests (since r.buffer (events notifies [] before)), m ≤ n)
    ⟨fun ⟨named, isOpen, inTime⟩ => ⟨named, isOpen, inTime⟩,
      fun taken => ⟨taken.named, taken.isOpen, taken.inTime⟩⟩

/-- A message about an error, for the sender of the moment. -/
structure Report where
  sender : Option Sender
  text : String

/-- What a report comes to: the sender is given the message once; without a sender the log has an error. -/
def Report.told (p : Report) : Trace :=
  match p.sender with
  | some pass => pass p.text .error
  | none => [.log ⟨.error, "Sender of user messages is not initialized"⟩]

/-- The report that is due when something happens: for an error that is taken in, if reports are wanted. -/
def report? (before : List Happening) : Happening → Option Report
  | .responded r =>
    if notifies = true ∧ TakenIn notifies before r then
      r.error.map fun message => ⟨senderAfter before, s!"Inlay hints: {message}"⟩
    else none
  | _ => none

def reports (before : List Happening) : List Happening → List Report
  | [] => []
  | h :: rest => (report? notifies before h).toList ++ reports (before ++ [h]) rest

end Replay

/-- Whether an effect is heard: all are but the records in the log that are not errors. -/
def isAudible : Effect → Bool
  | .log r => r.level = .error
  | _ => true

def heard (t : Trace) : Trace := t.filter isAudible

private theorem heard_append (s t : Trace) : heard (s ++ t) = heard s ++ heard t := List.filter_append ..

private theorem heard_log {level : Log.Level} (harmless : level ≠ .error) (text : String) (t : Trace) :
    heard (.log ⟨level, text⟩ :: t) = heard t := by
  unfold heard
  rw [List.filter_cons, isAudible, decide_eq_false harmless, if_neg Bool.false_ne_true]

/-- What is told where a message about an error is sent. -/
def toldOf (sender : Option Sender) (message : String) : Trace :=
  heard (Report.told ⟨sender, s!"Inlay hints: {message}"⟩)

private theorem heard_send {σ : Type} (sender : Option Sender) (text : String) (s : σ) :
    ∃ t, Message.send (sender.map Sender.outlet) text .error s = ⟨.ok (), s, t⟩ ∧
      heard t = heard (Report.told ⟨sender, text⟩) := by
  cases sender with
  | none => exact ⟨_, rfl, heard_log (by decide) _ _⟩
  | some pass => exact ⟨_, rfl, heard_log (by decide) _ _⟩

section Receive

variable {env : Surroundings} {sender : Option Sender} (sends : env.outlet = sender.map Sender.outlet) (r : Response)

include sends

private theorem heard_bucketOf {σ : Type} (s : σ) :
    ∃ b t, bucketOf env r s = ⟨.ok b, s, t⟩ ∧
      heard t = if env.notifies = true then (r.error.map (toldOf sender)).getD [] else [] := by
  unfold bucketOf
  cases r.error with
  | some message =>
    dsimp only
    rw [Act.bind_apply_ok (Act.log_apply _ _ s)]
    cases env.notifies with
    | false => exact ⟨_, _, rfl, heard_log (by decide) _ _⟩
    | true =>
      rw [sends, if_pos rfl, if_pos rfl]
      obtain ⟨t, sent, told⟩ := heard_send sender s!"Inlay hints: {message}" s
      rw [Act.bind_apply_ok sent]
      refine ⟨_, _, rfl, ?_⟩
      dsimp only
      rw [List.singleton_append, heard_log (by decide), Act.pure_apply, List.append_nil, told]
      rfl
  | none =>
    have quiet : (if env.notifies = true then ((none : Option String).map (toldOf sender)).getD [] else []) = [] :=
      ite_self _
    rw [quiet]
    cases r.result with
    | none => exact ⟨_, _, rfl, heard_log (by decide) _ _⟩
    | some inlays =>
      dsimp only
      split
      · exact ⟨_, _, rfl, heard_log (by decide) _ _⟩
      · exact ⟨_, _, rfl, rfl⟩

private theorem heard_receive (c : Collector) :
    ∃ d t, receive env r c = ⟨.ok (), d, t⟩ ∧
      heard t =
        if env.notifies = true ∧ r.buffer ≠ .absent ∧ env.isOpen r.buffer = true ∧ c.isOutdated r = false then
          (r.error.map (toldOf sender)).getD []
        else [] := by
  unfold receive
  by_cases anonymous : r.buffer = .absent
  · rw [if_pos anonymous, if_neg fun due => due.2.1 anonymous]
    exact ⟨_, _, rfl, heard_log (by decide) _ _⟩
  rw [if_neg anonymous]
  cases isOpen : env.isOpen r.buffer with
  | false =>
    rw [if_pos Bool.not_false, if_neg fun due => Bool.false_ne_true due.2.2.1]
    exact ⟨_, _, rfl, heard_log (by decide) _ _⟩
  | true =>
    rw [if_neg (by simp), Act.bind_apply_ok (Act.get_apply c)]
    cases outdated : c.isOutdated r with
    | true =>
      rw [if_pos rfl, if_neg fun due => Bool.false_ne_true due.2.2.2.symm]
      exact ⟨_, _, rfl, heard_log (by decide) _ _⟩
    | false =>
      obtain ⟨b, t, found, told⟩ := heard_bucketOf sends r c
      rw [if_neg Bool.false_ne_true, Act.bind_apply_ok found]
      have stored : heard (t ++ [.log ⟨.trace,
          s!"Inlay hints of buffer {r.buffer.text} updated, {b.keys.length} lines"⟩]) = heard t := by
        rw [heard_append, heard_log (by decide)]
        exact List.append_nil _
      refine ⟨_, _, rfl, stored.trans (told.trans ?_)⟩
      cases env.notifies with
      | false => rfl
      | true => rw [if_pos rfl, if_pos ⟨rfl, anonymous, rfl, rfl⟩]

end Receive

section Replay

variable (notifies : Bool)

private theorem events_append (before first second : List Happening) :
    events notifies before (first ++ second) =
      events notifies before first ++ events notifies (before ++ first) second := by
  induction first generalizing before with
  | nil => rw [List.append_nil]; rfl
  | cons h first ih =>
    rw [List.cons_append, events, ih, events, List.append_assoc, List.append_assoc, List.singleton_append]

private theorem reliable_events (before history : List Happening) :
    ∀ e ∈ events notifies before history, e.Reliable := by
  induction history generalizing before with
  | nil => exact fun _ member => (List.not_mem_nil member).elim
  | cons h rest ih =>
    intro e member
    rcases List.mem_append.1 member with own | later
    · cases h with
      | responded r =>
        obtain rfl := List.mem_singleton.1 own
        intro pass registered text kind
        obtain ⟨sender, -, rfl⟩ := Option.map_eq_some_iff.1 registered
        exact ⟨_, rfl⟩
      | forgotten buffer =>
        obtain rfl := List.mem_singleton.1 own
        trivial
      | registered | opened | closed | supporting => cases own
    · exact ih _ e later

/-- The collector that all that happened has left. -/
def collectorAfter (before : List Happening) : Collector := run (events notifies [] before)

private theorem takenIn_iff (before : List Happening) (r : Response) :
    TakenIn notifies before r ↔ r.buffer ≠ .absent ∧ (surroundingsAfter notifies before).isOpen r.buffer = true ∧
      (collectorAfter notifies before).isOutdated r = false := by
  have outdated (named : r.buffer ≠ .absent) :=
    isOutdated_run (d := ⟨surroundingsAfter notifies before, r⟩) (reliable_events notifies [] before) named
  constructor
  · rintro ⟨named, isOpen, inTime⟩
    exact ⟨named, isOpen, (outdated named).2 inTime⟩
  · rintro ⟨named, isOpen, inTime⟩
    exact ⟨named, isOpen, (outdated named).1 inTime⟩

private theorem collectorAfter_concat (before : List Happening) (h : Happening) :
    collectorAfter notifies (before ++ [h]) =
      (event? notifies before h).toList.foldl Event.after (collectorAfter notifies before) := by
  have last : events notifies [] (before ++ [h]) = events notifies [] before ++ (event? notifies before h).toList := by
    simp [events_append, events]
  unfold collectorAfter run
  rw [last, List.foldl_append]

private theorem heard_happen (before : List Happening) (h : Happening) :
    ∃ t, happen (surroundingsAfter notifies before) h (collectorAfter notifies before) =
        ⟨.ok (), collectorAfter notifies (before ++ [h]), t⟩ ∧
      heard t = (report? notifies before h).toList.flatMap fun p => heard p.told := by
  rw [collectorAfter_concat]
  cases h with
  | responded r =>
    have sends : (surroundingsAfter notifies before).outlet = (senderAfter before).map Sender.outlet := rfl
    obtain ⟨d, t, ran, told⟩ := heard_receive sends r (collectorAfter notifies before)
    have left : Event.after (collectorAfter notifies before) (.delivered ⟨surroundingsAfter notifies before, r⟩) = d :=
      congrArg Run.state ran
    refine ⟨t, ran.trans (by rw [← left]; rfl), told.trans ?_⟩
    have due := takenIn_iff notifies before r
    unfold report?
    dsimp only
    by_cases reported : notifies = true ∧ TakenIn notifies before r
    · rw [if_pos reported, if_pos ⟨reported.1, due.1 reported.2⟩]
      cases r.error with
      | none => rfl
      | some message => exact (List.append_nil _).symm
    · rw [if_neg reported, if_neg fun whole => reported ⟨whole.1, due.2 whole.2⟩]
      rfl
  | forgotten buffer => exact ⟨[], rfl, rfl⟩
  | registered | opened | closed | supporting => exact ⟨[], rfl, rfl⟩

private theorem heard_replay (before rest : List Happening) :
    ∃ t, replay notifies before rest (collectorAfter notifies before) =
        ⟨.ok (), collectorAfter notifies (before ++ rest), t⟩ ∧
      heard t = (reports notifies before rest).flatMap fun p => heard p.told := by
  induction rest generalizing before with
  | nil =>
    rw [List.append_nil]
    exact ⟨[], rfl, rfl⟩
  | cons h rest ih =>
    obtain ⟨t, ran, first⟩ := heard_happen notifies before h
    obtain ⟨u, went, later⟩ := ih (before ++ [h])
    refine ⟨t ++ u, ?_, ?_⟩
    · rw [replay, Act.bind_apply_ok ran, went, List.append_assoc, List.singleton_append]
    · rw [heard_append, first, later, reports, List.flatMap_append]

end Replay

private theorem reports_of_quiet (before history : List Happening) : reports false before history = [] := by
  induction history generalizing before with
  | nil => rfl
  | cons h rest ih =>
    have none : report? false before h = none := by
      cases h <;> simp [report?]
    rw [reports, none, ih]
    rfl

/-- Whatever happens, as long as senders do not fail, a collector takes everything in, and what is heard of it is one
message for each report that is due, in order and to the sender of the moment: one for each error that is taken in, if
reports are wanted, and none at all otherwise. -/
theorem reported_once (notifies : Bool) (history : List Happening) :
    (replay notifies [] history .new).outcome = .ok () ∧
      heard (replay notifies [] history .new).trace =
        (reports notifies [] history).flatMap (fun p => heard p.told) ∧
      heard (replay false [] history .new).trace = [] := by
  have start (n : Bool) := heard_replay n [] history
  obtain ⟨t, ran, told⟩ := start notifies
  obtain ⟨u, went, quiet⟩ := start false
  change replay _ _ _ .new = _ at ran went
  rw [ran, went]
  refine ⟨rfl, told, ?_⟩
  rw [quiet, reports_of_quiet]
  rfl

end HintLine.Collector
