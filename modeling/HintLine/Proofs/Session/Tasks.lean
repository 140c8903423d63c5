import HintLine.Proofs.Session.Schedule
import Mathlib.Data.List.Nodup

/-!
The tasks that are pending. A task that has started makes a request of the number of its ticket, because tasks start in
the order in which they are created. The tasks that are pending are those whose requests are in flight or have answers
that are yet to be delivered, and then those that have not started; each turn of a session keeps them so.
-/

set_option autoImplicit false

namespace HintLine

open HintLine.Client (Answer Job Request Task)

namespace Client.Task

/-- The request that a task makes. -/
def request (t : Task) : Request := ⟨t.ticket, t.buffer, t.client⟩

/-- The task that makes a request, once it has started. -/
def running (r : Request) : Task := ⟨r.number, r.buffer, r.client, some r.number⟩

private theorem created_append (n : Nat) (ps qs : List (Ident × Ident)) :
    created n (ps ++ qs) = created n ps ++ created (n + ps.length) qs := by
  induction ps generalizing n with
  | nil => rfl
  | cons p ps ih =>
    rw [List.cons_append, created, ih, created, List.length_cons, List.cons_append]
    congr 3
    omega

private theorem number_created {n : Nat} {ps : List (Ident × Ident)} {t : Task} (member : t ∈ created n ps) :
    t.number = none := by
  induction ps generalizing n with
  | nil => cases member
  | cons p ps ih =>
    rcases List.mem_cons.1 member with rfl | later
    · rfl
    · exact ih later

private theorem filter_created (r : Request) (n : Nat) (ps : List (Ident × Ident)) :
    (created n ps).filter (fun t => t.number ≠ some r.number) = created n ps := by
  refine List.filter_eq_self.2 fun t member => ?_
  rw [number_created member]
  rfl

private theorem map_request_created (n : Nat) (ps : List (Ident × Ident)) :
    (created n ps).map request = Session.numberedFrom n ps := by
  induction ps generalizing n with
  | nil => rfl
  | cons p ps ih => exact congrArg (_ :: ·) (ih (n + 1))

private theorem started_running (rs : List Request) (n : Nat) (p : Ident × Ident) (ps : List (Ident × Ident)) :
    started n (rs.map running ++ created n (p :: ps)) =
      (rs ++ [(⟨n, p.1, p.2⟩ : Request)]).map running ++ created (n + 1) ps := by
  induction rs with
  | nil => rfl
  | cons r rs ih => exact congrArg (_ :: ·) ih

private theorem filter_running {rs rest : List Request} {r : Request} (same : rs.Perm (r :: rest))
    (distinct : ((r :: rest).map Request.number).Nodup) (n : Nat) (ps : List (Ident × Ident)) :
    ∃ left : List Request, left.Perm rest ∧
      (rs.map running ++ created n ps).filter (fun t => t.number ≠ some r.number) =
        left.map running ++ created n ps := by
  obtain ⟨own, -⟩ := List.nodup_cons.1 distinct
  refine ⟨rs.filter fun q => q.number ≠ r.number, ?_, ?_⟩
  · refine (same.filter _).trans (List.Perm.of_eq ?_)
    rw [List.filter_cons_of_neg (by simp)]
    refine List.filter_eq_self.2 fun q member => decide_eq_true fun equal => own ?_
    rw [← equal]
    exact List.mem_map_of_mem member
  · rw [List.filter_append, filter_created, List.filter_map]
    congr 3
    funext q
    simp [running]

end Client.Task

namespace Session

/-- A session after requests were asked for; clients may have come and gone meanwhile. -/
def Asks (s t : Session) (asks : List (Ident × Ident)) : Prop :=
  ∃ clients attached, t.registry = { s.registry.schedule asks with clients, attached }

namespace Asks

variable {s t : Session} {asks : List (Ident × Ident)}

theorem due (later : s.Asks t asks) : t.registry.due = s.registry.due ++ asks.map sending := by
  obtain ⟨clients, attached, registry⟩ := later
  rw [registry]
  rfl

private theorem inFlight (later : s.Asks t asks) : t.registry.inFlight = s.registry.inFlight := by
  obtain ⟨clients, attached, registry⟩ := later
  rw [registry]
  rfl

theorem nextNumber (later : s.Asks t asks) : t.registry.nextNumber = s.registry.nextNumber := by
  obtain ⟨clients, attached, registry⟩ := later
  rw [registry]
  rfl

private theorem tasks (later : s.Asks t asks) :
    t.registry.tasks = s.registry.tasks ++ Task.created s.registry.nextTicket asks := by
  obtain ⟨clients, attached, registry⟩ := later
  rw [registry]
  rfl

private theorem nextTicket (later : s.Asks t asks) : t.registry.nextTicket = s.registry.nextTicket + asks.length := by
  obtain ⟨clients, attached, registry⟩ := later
  rw [registry]
  rfl

theorem unsent (later : s.Asks t asks) : t.unsent = s.unsent ++ asks := by
  unfold Session.unsent
  rw [later.due, List.filterMap_append, List.filterMap_map]
  exact congrArg _ List.filterMap_some

theorem pending (later : s.Asks t asks) : t.pending = s.pending := by
  unfold Session.pending
  rw [later.due, later.inFlight, List.filterMap_append, List.filterMap_map]
  simp [Function.comp_def, sending, Job.answered?]

theorem discarding (later : s.Asks t asks) (r : Request) : (s.discarding r).Asks (t.discarding r) asks := by
  obtain ⟨clients, attached, registry⟩ := later
  refine ⟨clients, attached, ?_⟩
  unfold Session.discarding Client.Registry.discard
  rw [registry]
  unfold Client.Registry.schedule
  dsimp only
  rw [List.filter_append, Client.Task.filter_created]

theorem of_beside (beside : s.Beside t) : s.Asks t [] := by
  refine ⟨t.registry.clients, t.registry.attached, ?_⟩
  rw [Client.Registry.schedule_nil]
  dsimp only
  rw [← beside.due, ← beside.inFlight, ← beside.nextNumber, ← beside.tasks,
    ← beside.nextTicket]

end Asks

/-- The requests that are not finished: those that were sent, and those yet to be sent with the numbers that they will
have. -/
def unfinished (s : Session) : List Request := s.pending ++ numberedFrom s.registry.nextNumber s.unsent

theorem unsent_send {s : Session} {buffer client : Ident} {due : List Job}
    (jobs : s.registry.due = .send buffer client :: due) : s.unsent = (buffer, client) :: (s.withDue due).unsent := by
  unfold unsent
  rw [jobs]
  rfl

theorem unsent_deliver {s : Session} {r : Request} {answer : Answer} {due : List Job}
    (jobs : s.registry.due = .deliver r answer :: due) : (s.withDue due).unsent = s.unsent := by
  unfold unsent
  rw [jobs]
  rfl

theorem unsent_answering (s : Session) (index : Nat) (r : Request) (answer : Answer) :
    (s.answering index r answer).unsent = s.unsent := by
  unfold unsent answering
  dsimp only
  rw [List.filterMap_append]
  exact List.append_nil _

/-- The tasks that are pending are those of the requests that are not finished. -/
structure Tasked (s : Session) : Prop where
  tasks : ∃ started : List Request, started.Perm s.pending ∧
    s.registry.tasks = started.map Task.running ++ Task.created s.registry.nextNumber s.unsent
  nextTicket : s.registry.nextTicket = s.registry.nextNumber + s.unsent.length

namespace Tasked

variable {s t : Session} (tasked : s.Tasked)

include tasked

theorem perm : (s.registry.tasks.map Task.request).Perm s.unfinished := by
  obtain ⟨started, same, tasks⟩ := tasked.tasks
  have whole : started.map (Task.request ∘ Task.running) = started := List.map_id started
  rw [tasks, List.map_append, List.map_map, whole, Client.Task.map_request_created]
  exact same.append_right _

theorem asked {asks : List (Ident × Ident)} (later : s.Asks t asks) : t.Tasked := by
  obtain ⟨started, same, tasks⟩ := tasked.tasks
  refine ⟨⟨started, later.pending ▸ same, ?_⟩, ?_⟩
  · rw [later.tasks, later.nextNumber, later.unsent, tasks, Client.Task.created_append, tasked.nextTicket,
      List.append_assoc]
  · rw [later.nextTicket, later.nextNumber, later.unsent, tasked.nextTicket, List.length_append, Nat.add_assoc]

theorem answered {index : Nat} {r : Request} (found : s.registry.inFlight[index]? = some r) (answer : Answer) :
    (s.answering index r answer).Tasked := by
  obtain ⟨started, same, tasks⟩ := tasked.tasks
  have unsent := unsent_answering s index r answer
  refine ⟨⟨started, same.trans (pending_answering found answer).symm, ?_⟩, ?_⟩
  · rw [unsent]
    exact tasks
  · rw [unsent]
    exact tasked.nextTicket

section Done

variable {due : List Job}

private theorem numbering_tasks {buffer client : Ident} (jobs : s.registry.due = .send buffer client :: due) :
    ∃ started : List Request, started.Perm (s.nextRequest buffer client :: (s.withDue due).pending) ∧
      (s.withDue due).numbering.registry.tasks =
        started.map Task.running ++ Task.created (s.registry.nextNumber + 1) (s.withDue due).unsent ∧
      s.registry.nextTicket = s.registry.nextNumber + 1 + (s.withDue due).unsent.length := by
  obtain ⟨started, same, tasks⟩ := tasked.tasks
  have unsent := unsent_send jobs
  refine ⟨started ++ [s.nextRequest buffer client], ?_, ?_, ?_⟩
  · exact (List.perm_append_singleton _ _).trans ((pending_send jobs ▸ same).cons _)
  · have numbered : (s.withDue due).numbering.registry.tasks =
        Task.started s.registry.nextNumber s.registry.tasks := rfl
    rw [numbered, tasks, unsent]
    exact Client.Task.started_running started s.registry.nextNumber (buffer, client) _
  · rw [tasked.nextTicket, unsent, List.length_cons]
    omega

theorem sent {buffer client : Ident} (jobs : s.registry.due = .send buffer client :: due) :
    ((s.withDue due).numbering.launching (s.nextRequest buffer client)).Tasked := by
  obtain ⟨started, same, tasks, nextTicket⟩ := tasked.numbering_tasks jobs
  refine ⟨⟨started, same.trans ?_, tasks⟩, nextTicket⟩
  unfold Session.pending launching
  dsimp only
  rw [List.append_assoc]
  exact List.perm_middle.symm

theorem gone {buffer client : Ident} (jobs : s.registry.due = .send buffer client :: due)
    (distinct : ((s.nextRequest buffer client :: (s.withDue due).pending).map Request.number).Nodup) :
    ((s.withDue due).numbering.discarding (s.nextRequest buffer client)).Tasked := by
  obtain ⟨started, same, tasks, nextTicket⟩ := tasked.numbering_tasks jobs
  obtain ⟨left, rest, discarded⟩ := Client.Task.filter_running same distinct _ _
  refine ⟨⟨left, rest, ?_⟩, nextTicket⟩
  rw [← tasks] at discarded
  exact discarded

theorem delivered {r : Request} {answer : Answer} (jobs : s.registry.due = .deliver r answer :: due)
    (distinct : ((r :: (s.withDue due).pending).map Request.number).Nodup) :
    ((s.withDue due).discarding r).Tasked := by
  obtain ⟨started, same, tasks⟩ := tasked.tasks
  obtain ⟨left, rest, discarded⟩ := Client.Task.filter_running (same.trans (pending_deliver jobs)) distinct
    s.registry.nextNumber (s.withDue due).unsent
  rw [unsent_deliver jobs, ← tasks] at discarded
  refine ⟨⟨left, rest, ?_⟩, ?_⟩
  · exact (unsent_deliver jobs).symm ▸ discarded
  · exact (unsent_deliver jobs).symm ▸ tasked.nextTicket

end Done

end Tasked

end Session

end HintLine
