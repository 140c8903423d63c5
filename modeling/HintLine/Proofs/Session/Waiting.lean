import HintLine.Proofs.Session.Effects
import HintLine.Proofs.Session.Schedule

/-!
What waiting comes to. While tasks are pending, what is due is done, the requests in flight are answered, and what is
due then is done; so waiting is a run of steps, with the same effects.
-/

set_option autoImplicit false

namespace HintLine.Session

open HintLine.Client (Answer Job Registry Request)

/-- The effects of some steps, one after the other. -/
def traced : Session → List Step → Trace
  | _, [] => []
  | s, step :: steps => (step.act s).trace ++ traced (step.after s) steps

private theorem traced_append (s : Session) (first second : List Step) :
    s.traced (first ++ second) = s.traced first ++ (s.run first).traced second := by
  induction first generalizing s with
  | nil => rfl
  | cons step first ih =>
    rw [List.cons_append, traced, ih, traced, List.append_assoc]
    rfl

private theorem advanceBy_eq (n : Nat) (s : Session) :
    ∃ faults, advanceBy n s =
      ⟨.ok faults, s.run (List.replicate n .advance), s.traced (List.replicate n .advance)⟩ := by
  induction n generalizing s with
  | zero => exact ⟨[], rfl⟩
  | succ n ih =>
    obtain ⟨faults, later⟩ := ih (advance s).state
    rw [advanceBy, Act.bind_apply_ok (Act.attempt_apply advance s), Act.bind_apply_ok later, List.replicate_succ,
      traced]
    cases (advance s).outcome with
    | ok u => exact ⟨faults, congrArg (Run.mk _ _) (congrArg _ (List.append_nil _))⟩
    | error e => exact ⟨e :: faults, congrArg (Run.mk _ _) (congrArg _ (List.append_nil _))⟩

theorem settle_eq (s : Session) :
    ∃ faults, settle s =
      ⟨.ok faults, s.run (List.replicate s.registry.due.length .advance),
        s.traced (List.replicate s.registry.due.length .advance)⟩ := advanceBy_eq _ s

private theorem traced_responds (given : List Answer) (s : Session) : s.traced (given.map (.respond 0)) = [] := by
  induction given generalizing s with
  | nil => rfl
  | cons answer given ih =>
    have quiet : (Step.respond 0 answer).act.Tells (Effect.Through []) :=
      (tells_respond 0 answer).bind fun _ => Act.tells_pure _
    have silent : ((Step.respond 0 answer).act s).trace = [] :=
      List.eq_nil_iff_forall_not_mem.2 fun e member => List.not_mem_nil (quiet s e member)
    rw [List.map_cons, traced, silent, ih]
    rfl

private theorem registry_advances (n : Nat) (s : Session) :
    (s.run (List.replicate n .advance)).registry.due = s.registry.due.drop n ∧
      ((∀ job ∈ s.registry.due, job.sent? = none) →
        (s.run (List.replicate n .advance)).registry.inFlight = s.registry.inFlight) := by
  induction n generalizing s with
  | zero => exact ⟨rfl, fun _ => rfl⟩
  | succ n ih =>
    obtain ⟨due, inFlight⟩ := ih (Step.advance.after s)
    have first : s.run (List.replicate (n + 1) .advance) = (Step.advance.after s).run (List.replicate n .advance) := rfl
    rw [first, due]
    rw [after_advance] at inFlight ⊢
    cases jobs : s.registry.due with
    | nil =>
      rw [jobs] at inFlight
      dsimp only at inFlight ⊢
      rw [jobs] at inFlight ⊢
      exact ⟨List.drop_nil, inFlight⟩
    | cons job due =>
      rw [jobs] at inFlight
      dsimp only at inFlight ⊢
      rw [due_doing] at inFlight ⊢
      refine ⟨rfl, ?_⟩
      intro deliveries
      have rest := inFlight fun other later => deliveries other (List.mem_cons_of_mem job later)
      rw [rest]
      cases job with
      | send buffer client => cases deliveries _ List.mem_cons_self
      | deliver r answer =>
        rw [doing]
        split <;> rfl

private theorem sent?_deliveries (rs : List Request) (answers : List Answer) :
    ∀ job ∈ Registry.deliveries rs answers, job.sent? = none := by
  induction rs generalizing answers with
  | nil => exact fun _ member => (List.not_mem_nil member).elim
  | cons r rs ih =>
    intro job member
    cases answers with
    | nil =>
      rcases List.mem_cons.1 member with rfl | later
      · rfl
      · exact ih [] job later
    | cons answer answers =>
      rcases List.mem_cons.1 member with rfl | later
      · rfl
      · exact ih answers job later

/-- The session in which all that was due has been done and the requests in flight are answered. -/
def told (s : Session) (answers : List Answer) : Session :=
  let sent := s.run (List.replicate s.registry.due.length .advance)
  { sent with registry := sent.registry.answeredAll answers }

theorem wait_idle (answers : List Answer) {s : Session} (idle : s.registry.tasks = []) :
    wait answers s = ⟨.ok (), s, []⟩ := by
  unfold wait
  rw [Act.bind_apply_ok (Act.get_apply _), idle]
  rfl

theorem wait_apply (answers : List Answer) {s : Session} (busy : s.registry.tasks ≠ []) :
    ∃ outcome, wait answers s =
      ⟨outcome, (settle (s.told answers)).state, (settle s).trace ++ (settle (s.told answers)).trace⟩ := by
  obtain ⟨early, first⟩ := settle_eq s
  obtain ⟨late, second⟩ := settle_eq (s.told answers)
  have answered :
      onRegistry (Act.modify (·.answeredAll answers)) (s.run (List.replicate s.registry.due.length .advance)) =
        ⟨.ok (), s.told answers, []⟩ := rfl
  unfold wait
  rw [Act.bind_apply_ok (Act.get_apply _), if_neg (mt List.isEmpty_iff.1 busy), Act.bind_apply_ok first]
  dsimp only
  rw [Act.bind_apply_ok answered]
  dsimp only
  rw [Act.bind_apply_ok second, first, second]
  cases early ++ late with
  | nil => exact ⟨.ok (), by simp⟩
  | cons e faults => exact ⟨.error e, by simp⟩

theorem state_wait (answers : List Answer) {s : Session} (busy : s.registry.tasks ≠ []) : (wait answers s).state =
    (s.told answers).run (List.replicate (s.told answers).registry.due.length .advance) := by
  obtain ⟨outcome, ran⟩ := wait_apply answers busy
  obtain ⟨faults, settled⟩ := settle_eq (s.told answers)
  rw [ran, settled]

/-- Waiting sends what is to be sent, takes an answer to each request in flight in, and delivers all answers. -/
theorem wait_eq (answers : List Answer) {s : Session} (busy : s.registry.tasks ≠ []) :
    ∃ given : List Answer, (∀ a ∈ given, a ∈ answers ∨ a = .hints none) ∧ ∃ m n,
      let steps := List.replicate m .advance ++ given.map (.respond 0) ++ List.replicate n .advance
      (wait answers s).state = s.run steps ∧ (wait answers s).trace = s.traced steps ∧
        (s.run steps).registry.due = [] ∧ (s.run steps).registry.inFlight = [] := by
  let sent := s.run (List.replicate s.registry.due.length .advance)
  let last := List.replicate (s.told answers).registry.due.length Step.advance
  obtain ⟨outcome, ended⟩ := wait_apply answers busy
  obtain ⟨early, first⟩ := settle_eq s
  obtain ⟨late, second⟩ := settle_eq (s.told answers)
  obtain ⟨given, among, ran⟩ := run_answeredAll _ answers sent rfl
  have none : sent.registry.due = [] := by
    rw [(registry_advances _ s).1, List.drop_length]
  obtain ⟨due, inFlight⟩ := registry_advances (s.told answers).registry.due.length (s.told answers)
  have reached : s.run (List.replicate s.registry.due.length .advance ++ given.map (.respond 0) ++ last) =
      (s.told answers).run last := by
    rw [run_append, run_append, ran]
    rfl
  refine ⟨given, among, s.registry.due.length, (s.told answers).registry.due.length, ?_⟩
  dsimp only
  rw [reached, ended, first, second]
  refine ⟨rfl, ?_, ?_, ?_⟩
  · have told : (s.run (List.replicate s.registry.due.length .advance)).run (given.map (.respond 0)) =
        s.told answers := ran
    rw [traced_append, traced_append, run_append, traced_responds, told, List.append_nil]
  · rw [due, List.drop_length]
  · rw [inFlight]
    · rfl
    · have jobs : (s.told answers).registry.due = Registry.deliveries sent.registry.inFlight answers := by
        show sent.registry.due ++ _ = _
        rw [none, List.nil_append]
      rw [jobs]
      exact sent?_deliveries _ _

end HintLine.Session
