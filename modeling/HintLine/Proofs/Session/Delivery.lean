import HintLine.Proofs.Session.Handling
import HintLine.Proofs.Session.Waiting

/-!
What becomes of the requests that are asked for. Each has a task that is pending until the request is finished, and the
handler is called just then, with the response that tells what befell it. Session and record are compared after every
turn; from that it follows what waiting comes to.
-/

set_option autoImplicit false

namespace HintLine.Session

open HintLine.Client (Answer Fate Job Registry Request Task)

/-- The answers that have come and are to be delivered, with their requests. -/
def answers (s : Session) : List (Request × Fate) :=
  s.registry.due.filterMap fun job =>
    match job with
    | .send _ _ => none
    | .deliver r answer => some (r, .answered answer)

/-- The call of the handler for hints that tells what befell a request. -/
def Reported (f : Request × Fate) (call : String × Response) : Prop :=
  call.1 = hintMethod ∧ f.1.Reports f.2 call.2

/-- How a session and the record of all its turns agree. -/
structure Accounted (s : Session) (h : Record) : Prop where
  numbers : s.registry.nextNumber + s.unsent.length = 1 + h.asked.length
  made : (s.unfinished ++ h.finished.map Prod.fst).Perm h.made
  befallen : h.befallen.Perm (s.answers ++ h.finished)
  handed : List.Forall₂ Reported h.finished h.handed
  proper : s.AllProper
  tasked : s.Tasked

namespace Accounted

private theorem idle {s : Session} (new : s.registry = .new) : s.Accounted .empty := by
  have nothing : s.registry.due = [] ∧ s.registry.inFlight = [] ∧ s.registry.nextNumber = 1 := by
    rw [new]
    exact ⟨rfl, rfl, rfl⟩
  obtain ⟨due, inFlight, number⟩ := nothing
  have unsent : s.unsent = [] := by
    unfold Session.unsent
    rw [due]
    rfl
  have pending : s.pending = [] := by
    unfold Session.pending
    rw [due, inFlight]
    rfl
  refine ⟨?_, ?_, ?_, .nil, ?_, ⟨⟨[], ?_, ?_⟩, ?_⟩⟩
  · rw [unsent, number]
    rfl
  · unfold unfinished
    rw [pending, unsent]
    exact List.Perm.refl _
  · unfold answers
    rw [due]
    exact List.Perm.refl _
  · intro r answer member
    rw [due] at member
    cases member
  · rw [pending]
  · rw [unsent, new]
    rfl
  · rw [unsent, new]
    rfl

variable {s t : Session} {h : Record}

private theorem distinct (accounted : s.Accounted h) : (s.unfinished.map Request.number).Nodup := by
  have ordered : h.made.Pairwise fun q r => q.number < r.number := pairwise_numberedFrom 1 h.asked
  have made : (h.made.map Request.number).Nodup := by
    rw [List.Nodup, List.pairwise_map]
    exact ordered.imp fun less => Nat.ne_of_lt less
  have whole := (accounted.made.map Request.number).nodup_iff.2 made
  rw [List.map_append] at whole
  exact (List.nodup_append.1 whole).1

private theorem distinct_first (accounted : s.Accounted h) {r : Request} {pending unsent : List Request}
    (unfinished : s.unfinished.Perm (r :: (pending ++ unsent))) : ((r :: pending).map Request.number).Nodup := by
  have whole := (unfinished.map Request.number).nodup_iff.1 accounted.distinct
  exact whole.sublist (((List.sublist_append_left pending unsent).cons_cons r).map _)

private theorem asked (accounted : s.Accounted h) {asks : List (Ident × Ident)} (later : s.Asks t asks) :
    t.Accounted (h.append ⟨asks, [], [], []⟩) := by
  have answers : t.answers = s.answers := by
    unfold Session.answers
    rw [later.due, List.filterMap_append, List.filterMap_map]
    simp [Function.comp_def, sending]
  have made : (h.append ⟨asks, [], [], []⟩).made = h.made ++ numberedFrom (1 + h.asked.length) asks :=
    numberedFrom_append 1 h.asked asks
  have unfinished : t.unfinished = s.unfinished ++ numberedFrom (1 + h.asked.length) asks := by
    unfold Session.unfinished
    rw [later.pending, later.unsent, later.nextNumber, numberedFrom_append, accounted.numbers, List.append_assoc]
  have finished : (h.append ⟨asks, [], [], []⟩).finished = h.finished := List.append_nil _
  refine ⟨?_, ?_, ?_, ?_, ?_, accounted.tasked.asked later⟩
  · have counted := accounted.numbers
    rw [later.unsent, later.nextNumber, List.length_append]
    show _ = 1 + (h.asked ++ asks).length
    rw [List.length_append]
    omega
  · rw [finished, unfinished, made, List.append_assoc]
    have swapped : (numberedFrom (1 + h.asked.length) asks ++ h.finished.map Prod.fst).Perm
        (h.finished.map Prod.fst ++ numberedFrom (1 + h.asked.length) asks) := List.perm_append_comm
    refine (swapped.append_left s.unfinished).trans ?_
    rw [← List.append_assoc]
    exact accounted.made.append_right _
  · rw [finished, answers]
    show (h.befallen ++ []).Perm _
    rw [List.append_nil]
    exact accounted.befallen
  · rw [finished]
    show List.Forall₂ _ h.finished (h.handed ++ [])
    rw [List.append_nil]
    exact accounted.handed
  · intro r answer member
    rw [later.due] at member
    rcases List.mem_append.1 member with before | new
    · exact accounted.proper r answer before
    · obtain ⟨p, -, same⟩ := List.mem_map.1 new
      cases same

private theorem answered (accounted : s.Accounted h) {index : Nat} {r : Request} {answer : Answer}
    (proper : answer.Proper) (found : s.registry.inFlight[index]? = some r) :
    (s.answering index r answer).Accounted (h.append ⟨[], [(r, .answered answer)], [], []⟩) := by
  have unsent := unsent_answering s index r answer
  have answers : (s.answering index r answer).answers = s.answers ++ [(r, .answered answer)] := by
    unfold Session.answers answering
    dsimp only
    rw [List.filterMap_append]
    rfl
  have unfinished : (s.answering index r answer).unfinished.Perm s.unfinished := by
    unfold Session.unfinished
    rw [unsent]
    exact (pending_answering found answer).append_right _
  have asked : (h.append ⟨[], [(r, .answered answer)], [], []⟩).asked = h.asked := List.append_nil _
  have finished : (h.append ⟨[], [(r, .answered answer)], [], []⟩).finished = h.finished := List.append_nil _
  refine ⟨?_, ?_, ?_, ?_, ?_, accounted.tasked.answered found answer⟩
  · rw [asked, unsent]
    exact accounted.numbers
  · unfold Record.made
    rw [asked, finished]
    exact (unfinished.append_right _).trans accounted.made
  · rw [finished, answers, List.append_assoc]
    have last := (accounted.befallen.append_right [(r, Fate.answered answer)])
    rw [List.append_assoc] at last
    exact last.trans (List.perm_append_comm.append_left s.answers)
  · rw [finished]
    show List.Forall₂ _ h.finished (h.handed ++ [])
    rw [List.append_nil]
    exact accounted.handed
  · intro q other member
    rcases List.mem_append.1 member with before | last
    · exact accounted.proper q other before
    · cases List.mem_singleton.1 last
      exact proper

private theorem made_of_finished (accounted : s.Accounted h) {r : Request} (fate : Fate)
    (unfinished : s.unfinished.Perm (r :: t.unfinished)) :
    (t.unfinished ++ (h.finished ++ [(r, fate)]).map Prod.fst).Perm h.made := by
  have moved : (t.unfinished ++ (h.finished ++ [(r, fate)]).map Prod.fst).Perm
      ((r :: t.unfinished) ++ h.finished.map Prod.fst) := by
    rw [List.map_append, ← List.append_assoc]
    exact List.perm_append_singleton r _
  exact (moved.trans (unfinished.symm.append_right _)).trans accounted.made

private theorem allProper_rest (accounted : s.Accounted h) {job : Job} {due : List Job}
    (jobs : s.registry.due = job :: due) : (s.withDue due).AllProper :=
  fun r answer member => accounted.proper r answer (jobs ▸ List.mem_cons_of_mem job member)

section Send

variable {buffer client : Ident} {due : List Job} (jobs : s.registry.due = .send buffer client :: due)

include jobs

private theorem unfinished_send : s.unfinished =
    (s.withDue due).pending ++
      s.nextRequest buffer client :: numberedFrom (s.registry.nextNumber + 1) (s.withDue due).unsent := by
  unfold Session.unfinished
  rw [unsent_send jobs, pending_send jobs]
  rfl

private theorem answers_send : (s.withDue due).answers = s.answers := by
  unfold Session.answers
  rw [jobs]
  rfl

private theorem sent (accounted : s.Accounted h) :
    ((s.withDue due).numbering.launching (s.nextRequest buffer client)).Accounted h := by
  have unfinished : ((s.withDue due).numbering.launching (s.nextRequest buffer client)).unfinished.Perm
      s.unfinished := by
    let later := numberedFrom (s.registry.nextNumber + 1) (s.withDue due).unsent
    have left : ((s.withDue due).numbering.launching (s.nextRequest buffer client)).unfinished =
        s.registry.inFlight ++ [s.nextRequest buffer client] ++ due.filterMap Job.answered? ++ later := rfl
    have before : (s.withDue due).pending = s.registry.inFlight ++ due.filterMap Job.answered? := rfl
    have moved : (s.nextRequest buffer client :: (due.filterMap Job.answered? ++ later)).Perm
        (due.filterMap Job.answered? ++ s.nextRequest buffer client :: later) := List.perm_middle.symm
    rw [unfinished_send jobs, left, before, List.append_assoc, List.append_assoc, List.append_assoc]
    exact moved.append_left s.registry.inFlight
  refine ⟨?_, (unfinished.append_right _).trans accounted.made, answers_send jobs ▸ accounted.befallen,
    accounted.handed, accounted.allProper_rest jobs, accounted.tasked.sent jobs⟩
  have counted := accounted.numbers
  rw [unsent_send jobs, List.length_cons] at counted
  show s.registry.nextNumber + 1 + (s.withDue due).unsent.length = _
  omega

private theorem gone (accounted : s.Accounted h) :
    ((s.withDue due).numbering.discarding (s.nextRequest buffer client)).Accounted
      (h.append ⟨[], [(s.nextRequest buffer client, .gone)], [(s.nextRequest buffer client, .gone)],
        [(hintMethod, (s.nextRequest buffer client).unanswered)]⟩) := by
  let r := s.nextRequest buffer client
  let u := (s.withDue due).numbering.discarding r
  have unfinished : s.unfinished.Perm (r :: u.unfinished) := by
    rw [unfinished_send jobs]
    exact List.perm_middle
  have asked : (h.append ⟨[], [(r, .gone)], [(r, .gone)], [(hintMethod, r.unanswered)]⟩).asked = h.asked :=
    List.append_nil _
  refine ⟨?_, ?_, ?_, ?_, accounted.allProper_rest jobs,
    accounted.tasked.gone jobs (accounted.distinct_first unfinished)⟩
  · have counted := accounted.numbers
    rw [unsent_send jobs, List.length_cons] at counted
    rw [asked]
    show s.registry.nextNumber + 1 + (s.withDue due).unsent.length = _
    omega
  · unfold Record.made
    rw [asked]
    exact accounted.made_of_finished .gone unfinished
  · show (h.befallen ++ [_]).Perm ((s.withDue due).answers ++ (h.finished ++ [_]))
    rw [answers_send jobs, ← List.append_assoc]
    exact accounted.befallen.append_right _
  · exact List.rel_append accounted.handed (.cons ⟨rfl, .gone⟩ .nil)

end Send

private theorem delivered (accounted : s.Accounted h) {r : Request} {answer : Answer} {response : Response}
    {due : List Job} (jobs : s.registry.due = .deliver r answer :: due) (made : r.response answer = .ok response) :
    ((s.withDue due).discarding r).Accounted
      (h.append ⟨[], [], [(r, .answered answer)], [(hintMethod, response)]⟩) := by
  have unsent := unsent_deliver jobs
  have answers : s.answers = (r, .answered answer) :: (s.withDue due).answers := by
    unfold Session.answers
    rw [jobs]
    rfl
  have unfinished : s.unfinished.Perm (r :: (s.withDue due).unfinished) := by
    unfold Session.unfinished
    rw [unsent]
    exact (pending_deliver jobs).append_right _
  have asked : (h.append ⟨[], [], [(r, .answered answer)], [(hintMethod, response)]⟩).asked = h.asked :=
    List.append_nil _
  refine ⟨?_, ?_, ?_, ?_, accounted.allProper_rest jobs,
    accounted.tasked.delivered jobs (accounted.distinct_first unfinished)⟩
  · rw [asked]
    show s.registry.nextNumber + (s.withDue due).unsent.length = _
    rw [unsent]
    exact accounted.numbers
  · unfold Record.made
    rw [asked]
    exact accounted.made_of_finished (.answered answer) unfinished
  · show (h.befallen ++ []).Perm ((s.withDue due).answers ++ (h.finished ++ [_]))
    have before := accounted.befallen
    rw [answers, List.cons_append] at before
    rw [List.append_nil, ← List.append_assoc]
    exact before.trans (List.perm_append_singleton _ _).symm
  · exact List.rel_append accounted.handed (.cons ⟨rfl, .of_response made⟩ .nil)

section Play

variable {handlers : Handlers} {handle : Response → Act Session Unit}
  (registered : handlers.get? hintMethod = some handle) (modest : Modest handle)

include registered modest

private theorem after (accounted : s.Accounted h) {turn : Turn} (proper : turn.Proper) :
    (turn.afterWith handlers s).Accounted (h.append (turn.record handlers s)) := by
  have last (asks : List (Ident × Ident)) (befallen finished : List (Request × Fate))
      (handed : List (String × Response)) : h.append ⟨asks, befallen, finished, handed⟩ =
        (h.append ⟨[], befallen, finished, handed⟩).append ⟨asks, [], [], []⟩ := by
    simp [Record.append]
  have turned := turned registered modest accounted.proper proper
  generalize turn.afterWith handlers s = t, turn.record handlers s = k at turned ⊢
  cases turned with
  | asked later => exact accounted.asked later
  | answered proper found answering =>
    rw [answering]
    exact accounted.answered proper found
  | sent jobs sending =>
    rw [sending, Record.append_empty]
    exact accounted.sent jobs
  | gone jobs later =>
    rw [last]
    exact (accounted.gone jobs).asked later
  | delivered jobs made later =>
    rw [last]
    exact (accounted.delivered jobs made).asked later

/-- Session and record agree after any turns. -/
private theorem play (accounted : s.Accounted h) {turns : List Turn} (proper : ∀ turn ∈ turns, turn.Proper) :
    (s.playWith handlers turns).Accounted (h.append (s.history handlers turns)) := by
  induction turns generalizing s h with
  | nil =>
    rw [history, Record.append_empty]
    exact accounted
  | cons turn turns ih =>
    have first := accounted.after registered modest (proper turn List.mem_cons_self)
    have later := ih first fun next member => proper next (List.mem_cons_of_mem turn member)
    rw [Record.append_assoc] at later
    exact later

end Play

private theorem map_answers (s : Session) : s.answers.map Prod.fst = s.registry.due.filterMap Job.answered? := by
  unfold answers
  rw [List.map_filterMap]
  congr 1
  funext job
  cases job <;> rfl

end Accounted

/-- A session and the record of all its turns, as they are to agree. -/
structure Faithful (s : Session) (h : Record) : Prop where
  named : h.made.map (fun r => (r.buffer, r.client)) = h.asked
  /-- Requests are numbered in the order in which they were asked for. -/
  ordered : h.made.Pairwise fun q r => q.number < r.number
  /-- The handler for hints was called once for each finished request, and told what befell it; no other was called. -/
  handed : List.Forall₂ Reported h.finished h.handed
  /-- What befell a finished request is recorded, and nothing else befell it. -/
  befallen : (∀ f ∈ h.finished, f ∈ h.befallen) ∧ (h.befallen.map Prod.fst).Nodup
  once : (h.finished.map Prod.fst).Nodup
  numbers : (h.handed.map fun call => call.2.request).Nodup
  /-- The tasks that are pending are those of the requests that were asked for and are not finished. -/
  outstanding : ∀ r, (r ∈ s.outstanding ↔ r ∈ h.made ∧ r ∉ h.finished.map Prod.fst) ∧
    (r ∈ h.finished.map Prod.fst → r ∈ h.made)
  apart : s.outstanding.Nodup ∧ (s.registry.tasks.map Task.ticket).Nodup

private theorem map_numberedFrom (n : Nat) (ps : List (Ident × Ident)) :
    (numberedFrom n ps).map (fun r => (r.buffer, r.client)) = ps := by
  induction ps generalizing n with
  | nil => rfl
  | cons p ps ih => rw [numberedFrom, List.map_cons, ih]

private theorem map_request_eq {finished : List (Request × Fate)} {handed : List (String × Response)}
    (reports : List.Forall₂ Reported finished handed) :
    handed.map (fun call => call.2.request) = (finished.map Prod.fst).map fun r => some (r.number : Int) := by
  induction reports with
  | nil => rfl
  | cons first _ ih => rw [List.map_cons, List.map_cons, List.map_cons, ih, first.2.request]

private theorem Accounted.faithful {s : Session} {h : Record} (accounted : s.Accounted h) : s.Faithful h := by
  have ordered : h.made.Pairwise fun q r => q.number < r.number := pairwise_numberedFrom 1 h.asked
  have distinct : (h.made.map Request.number).Nodup := by
    rw [List.Nodup, List.pairwise_map]
    exact ordered.imp fun less => Nat.ne_of_lt less
  have whole : (s.unfinished ++ h.finished.map Prod.fst).Nodup :=
    accounted.made.nodup_iff.2 (List.Nodup.of_map _ distinct)
  obtain ⟨outside, once, apart⟩ := List.nodup_append.1 whole
  have same : s.outstanding.Perm s.unfinished := accounted.tasked.perm
  have either (r : Request) : r ∈ h.made ↔ r ∈ s.outstanding ∨ r ∈ h.finished.map Prod.fst := by
    rw [← accounted.made.mem_iff, List.mem_append, same.mem_iff]
  refine ⟨map_numberedFrom 1 h.asked, ordered, accounted.handed, ⟨?_, ?_⟩, once, ?_, ?_, same.nodup_iff.2 outside, ?_⟩
  · intro f member
    exact accounted.befallen.mem_iff.2 (List.mem_append_right _ member)
  · have part : (s.registry.due.filterMap Job.answered?).Sublist s.unfinished :=
      (List.sublist_append_right _ _).trans (List.sublist_append_left _ _)
    rw [(accounted.befallen.map Prod.fst).nodup_iff, List.map_append, Accounted.map_answers]
    exact whole.sublist (part.append_right _)
  · rw [map_request_eq accounted.handed]
    have numbers : ((h.finished.map Prod.fst).map Request.number).Nodup := by
      have all := (accounted.made.map Request.number).nodup_iff.2 distinct
      rw [List.map_append] at all
      exact (List.nodup_append.1 all).2.1
    have wrapped : (fun r : Request => some (r.number : Int)) = (fun n : Nat => some (n : Int)) ∘ Request.number := rfl
    rw [wrapped, ← List.map_map]
    refine numbers.map ?_
    intro m n same
    exact Int.ofNat.inj (Option.some.inj same)
  · intro r
    refine ⟨⟨?_, ?_⟩, fun done => (either r).2 (Or.inr done)⟩
    · intro out
      exact ⟨(either r).2 (Or.inl out), fun done => apart r (same.mem_iff.1 out) r done rfl⟩
    · rintro ⟨made, unfinished⟩
      exact ((either r).1 made).resolve_right unfinished
  · have tickets : s.registry.tasks.map Task.ticket = s.outstanding.map Request.number := by
      unfold Session.outstanding
      rw [List.map_map]
      rfl
    rw [tickets, (same.map _).nodup_iff]
    exact accounted.distinct

private theorem Faithful.delivers {s : Session} {h : Record} (faithful : s.Faithful h) {r : Request}
    (done : r ∈ h.finished.map Prod.fst) : h.Delivers r := by
  have told {finished : List (Request × Fate)} {handed : List (String × Response)}
      (reports : List.Forall₂ Reported finished handed) {f : Request × Fate} (member : f ∈ finished) :
      ∃ response, f.1.Reports f.2 response ∧ (hintMethod, response) ∈ handed := by
    induction reports with
    | nil => cases member
    | @cons first call _ _ reported _ ih =>
      obtain ⟨method, response⟩ := call
      obtain ⟨rfl, own⟩ := reported
      rcases List.mem_cons.1 member with rfl | later
      · exact ⟨response, own, List.mem_cons_self⟩
      · obtain ⟨response, reported, inside⟩ := ih later
        exact ⟨response, reported, List.mem_cons_of_mem _ inside⟩
  obtain ⟨f, member, rfl⟩ := List.mem_map.1 done
  obtain ⟨response, reported, inside⟩ := told faithful.handed member
  exact ⟨f.2, response, faithful.befallen.1 f member, reported, inside⟩

section Handler

variable {handlers : Handlers} {handle : Response → Act Session Unit}
  (registered : handlers.get? hintMethod = some handle) (modest : Modest handle)
  {start : Session} (new : start.registry = .new)

include registered modest new

private theorem accounted_playWith {turns : List Turn} (proper : ∀ turn ∈ turns, turn.Proper) :
    (start.playWith handlers turns).Accounted (start.history handlers turns) :=
  (Accounted.idle new).play registered modest proper

private theorem faithful_playWith {turns : List Turn} (proper : ∀ turn ∈ turns, turn.Proper) :
    (start.playWith handlers turns).Faithful (start.history handlers turns) :=
  (accounted_playWith registered modest new proper).faithful

private theorem delivers_of_done {turns later : List Turn} (proper : ∀ turn ∈ turns, turn.Proper)
    (proper' : ∀ turn ∈ later, turn.Proper)
    (done : ∀ r ∈ (start.playWith handlers turns).outstanding,
      r ∉ (start.playWith handlers (turns ++ later)).outstanding) :
    ∀ r ∈ (start.history handlers turns).made, (start.history handlers (turns ++ later)).Delivers r := by
  intro r made
  have whole : ∀ turn ∈ turns ++ later, turn.Proper := by
    intro turn member
    exact (List.mem_append.1 member).elim (proper turn) (proper' turn)
  have before := faithful_playWith registered modest new proper
  have after := faithful_playWith registered modest new whole
  apply after.delivers
  have longer := history_append handlers start turns later
  have finished : (start.history handlers turns).finished.map Prod.fst ⊆
      (start.history handlers (turns ++ later)).finished.map Prod.fst := by
    rw [longer]
    exact List.map_subset _ (List.subset_append_left _ _)
  by_cases early : r ∈ (start.history handlers turns).finished.map Prod.fst
  · exact finished early
  · have unfinished' := ((before.outstanding r).1.2 ⟨made, early⟩)
    have kept : r ∈ (start.history handlers (turns ++ later)).made := by
      rw [longer]
      show r ∈ numberedFrom 1 (_ ++ _)
      rw [numberedFrom_append]
      exact List.mem_append_left _ made
    by_contra unfinished
    exact done r unfinished' ((after.outstanding r).1.2 ⟨kept, unfinished⟩)

end Handler

private theorem handed_steps (steps : List Step) (s : Session) :
    (s.history handlers (steps.map .step)).handed = (s.traced steps).handled := by
  induction steps generalizing s with
  | nil => rfl
  | cons step steps ih =>
    have acts : (Turn.step step).actWith handlers = step.act := actWith_handlers (.step step)
    have left : (Turn.step step).afterWith handlers s = step.after s := by
      unfold Turn.afterWith
      rw [acts]
      rfl
    have first : ((Turn.step step).record handlers s).handed = (step.act s).trace.handled := by
      unfold Turn.record
      rw [acts]
    rw [traced, Trace.handled_append, ← ih (step.after s), ← first, ← left]
    rfl

private theorem wait_turns {answers : List Answer} (given : ∀ a ∈ answers, a.Proper) {s : Session} (tasked : s.Tasked) :
    ∃ turns : List Turn, (∀ turn ∈ turns, turn.Proper) ∧ (wait answers s).state = s.play turns ∧
      (wait answers s).trace.handled = (s.history handlers turns).handed ∧ (s.play turns).unfinished = [] := by
  by_cases idle : s.registry.tasks = []
  · refine ⟨[], fun _ member => (List.not_mem_nil member).elim, ?_, ?_, ?_⟩
    · rw [wait_idle answers idle]
      rfl
    · rw [wait_idle answers idle]
      rfl
    · have none := tasked.perm
      rw [idle] at none
      exact none.nil_eq.symm
  · obtain ⟨taken, among, m, n, left, traced, due, inFlight⟩ := wait_eq answers idle
    let steps : List Step := List.replicate m .advance ++ taken.map (.respond 0) ++ List.replicate n .advance
    have played : s.play (steps.map .step) = s.run steps := by
      unfold play run
      rw [List.foldl_map]
      rfl
    refine ⟨steps.map .step, ?_, ?_, ?_, ?_⟩
    · intro turn member
      obtain ⟨step, inside, rfl⟩ := List.mem_map.1 member
      rcases List.mem_append.1 inside with before | last
      · rcases List.mem_append.1 before with early | answered
        · rw [List.eq_of_mem_replicate early]
          trivial
        · obtain ⟨a, own, rfl⟩ := List.mem_map.1 answered
          rcases among a own with inside | rfl
          · exact given a inside
          · intro e same
            cases same
      · rw [List.eq_of_mem_replicate last]
        trivial
    · rw [played]
      exact left
    · rw [handed_steps, traced]
    · rw [played]
      unfold unfinished pending unsent
      rw [due, inFlight]
      rfl

private theorem registered_collect : handlers.get? hintMethod = some collect := by
  rw [get?_handlers, if_pos rfl]

private def vacant : Session := .new .standard ⟨[], [], []⟩ (.new [] none) false

/-- Hints are asked for twice in a file; when the second request is to be sent the file is closed, and only then the
answer to the first one is delivered. -/
private def closing : List Turn :=
  [.step (.register (.number 1) ⟨true, .ok (), .ok ()⟩),
    .step (.deed (.openBuffer ⟨.here, ["a.toy"]⟩ "x = 1" "toy")),
    .step (.deed (.attach (.number 1) (.number 1))),
    .step (.deed (.enable (.number 1))),
    .step .advance,
    .step (.deed (.enable (.number 1))),
    .step (.respond 0 (.hints (some []))),
    .step (.deed (.closeBuffer (.number 1))),
    .step .advance,
    .step .advance]

end HintLine.Session
