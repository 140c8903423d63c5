import HintLine.Proofs.Session.Numbering

/-!
Which requests are made while the clients stay as they are. Requests are sent in the order in which they were
scheduled, and only the deeds of the host schedule any; so the requests of a run, their numbers included, do not
depend on when the jobs are done and the answers come.
-/

set_option autoImplicit false

namespace HintLine

open HintLine.Client (Answer Job Request RpcError)

/-- What becomes of a request: hints, or nothing, or an error of the protocol. -/
abbrev Client.Outcome := Except RpcError (Option (List Inlay))

def Client.Outcome.answer : Client.Outcome → Answer
  | .ok result => .hints result
  | .error e => .refused e

/-- The buffer and the client of the request that a job sends, if it does that. -/
def Client.Job.sent? : Job → Option (Ident × Ident)
  | .send buffer client => some (buffer, client)
  | .deliver _ _ => none

namespace Session

def Step.deed? : Step → Option Deed
  | deed d => some d
  | _ => none

/-- A step that leaves the clients alone, and answers a request by its outcome if it answers one. -/
def Quiet (outcome : Request → Client.Outcome) (s : Session) : Step → Prop
  | .deed _ => True
  | .advance => True
  | .respond index answer => ∀ r, s.registry.inFlight[index]? = some r → answer = (outcome r).answer
  | _ => False

def Along (p : Session → Step → Prop) : Session → List Step → Prop
  | _, [] => True
  | s, step :: steps => p s step ∧ Along p (step.after s) steps

/-- The request that a step numbers, if it does that. -/
def request? (s : Session) : Step → Option Request
  | .advance => (s.registry.due.head?.bind Job.sent?).map fun p => s.nextRequest p.1 p.2
  | _ => none

def requests : Session → List Step → List Request := yields request?

/-- The requests that deeds schedule one after the other, while nothing else happens. -/
def asked : Session → List Deed → List (Ident × Ident)
  | _, [] => []
  | s, d :: ds => d.asks s ++ asked (d.effect s) ds

/-- Requests numbered from a number on. -/
def numberedFrom (n : Nat) : List (Ident × Ident) → List Request
  | [] => []
  | p :: ps => ⟨n, p.1, p.2⟩ :: numberedFrom (n + 1) ps

/-- Two sessions that look alike to the host: jobs, answers and hints apart. -/
structure Alike (s t : Session) : Prop where
  settings : s.settings = t.settings
  files : s.files = t.files
  editor : s.editor = t.editor
  clients : s.registry.clients = t.registry.clients
  attached : s.registry.attached = t.registry.attached

namespace Alike

variable {s t : Session}

theorem refl (s : Session) : s.Alike s := ⟨rfl, rfl, rfl, rfl, rfl⟩

private theorem trans {u : Session} (first : s.Alike t) (second : t.Alike u) : s.Alike u :=
  ⟨first.settings.trans second.settings, first.files.trans second.files, first.editor.trans second.editor,
    first.clients.trans second.clients, first.attached.trans second.attached⟩

private theorem attachedTo (alike : s.Alike t) (b : Ident) : s.registry.attachedTo b = t.registry.attachedTo b := by
  unfold Client.Registry.attachedTo
  rw [alike.attached]

private theorem supports (alike : s.Alike t) : s.registry.supports = t.registry.supports := by
  unfold Client.Registry.supports
  rw [alike.clients]

private theorem canAttach (alike : s.Alike t) (buffer client : Ident) :
    s.canAttach buffer client = t.canAttach buffer client := by
  unfold Session.canAttach
  rw [alike.editor, alike.clients]

private theorem asksItself (alike : s.Alike t) (client : Ident) : s.asksItself client = t.asksItself client := by
  unfold Session.asksItself
  rw [alike.settings, alike.supports]

private theorem asks (alike : s.Alike t) (d : Deed) : d.asks s = d.asks t := by
  cases d with
  | enable buffer => rw [Deed.asks, Deed.asks, alike.attachedTo, alike.supports]
  | attached buffer client => rw [Deed.asks, Deed.asks, alike.attachedTo, alike.supports, alike.asksItself]
  | _ => rfl

private theorem effect (alike : s.Alike t) (d : Deed) : (d.effect s).Alike (d.effect t) := by
  cases d with
  | openBuffer path text languageId =>
    have uri : s.uriOf path = t.uriOf path := by
      unfold uriOf
      rw [alike.files]
    refine ⟨alike.settings, alike.files, ?_, alike.clients, alike.attached⟩
    show (s.editor.opened (s.uriOf path) text languageId).1 = (t.editor.opened (t.uriOf path) text languageId).1
    rw [alike.editor, uri]
  | closeBuffer buffer =>
    have editor : s.editor.closed buffer = t.editor.closed buffer := by rw [alike.editor]
    rw [Deed.effect, Deed.effect]
    split <;> split <;> exact ⟨alike.settings, alike.files, editor, alike.clients, alike.attached⟩
  | setCurrent buffer =>
    have editor : ({ s.editor with current := buffer } : Editor) = { t.editor with current := buffer } := by
      rw [alike.editor]
    rw [Deed.effect, Deed.effect, alike.editor]
    split
    · exact ⟨alike.settings, alike.files, rfl, alike.clients, alike.attached⟩
    · exact alike
  | setCursor cursor =>
    have editor : ({ s.editor with cursor } : Editor) = { t.editor with cursor } := by rw [alike.editor]
    exact ⟨alike.settings, alike.files, editor, alike.clients, alike.attached⟩
  | attach buffer client =>
    rw [Deed.effect, Deed.effect, alike.canAttach]
    split
    · refine ⟨alike.settings, alike.files, alike.editor, alike.clients, ?_⟩
      show s.registry.attached.insert buffer (s.registry.attachedTo buffer ++ [client]) =
        t.registry.attached.insert buffer (t.registry.attachedTo buffer ++ [client])
      rw [alike.attached, alike.attachedTo]
    · exact alike
  | attached buffer client =>
    rw [Deed.effect, Deed.effect, alike.asksItself]
    split
    · exact ⟨alike.settings, alike.files, alike.editor, alike.clients, alike.attached⟩
    · exact alike
  | parse | enable | hold | silence =>
    exact ⟨alike.settings, alike.files, alike.editor, alike.clients, alike.attached⟩

theorem doing (s : Session) (job : Job) : (s.doing job).Alike s := by
  cases job with
  | send buffer client =>
    rw [Session.doing]
    split <;> exact ⟨rfl, rfl, rfl, rfl, rfl⟩
  | deliver r answer =>
    rw [Session.doing]
    split <;> exact ⟨rfl, rfl, rfl, rfl, rfl⟩

end Alike

variable {outcome : Request → Client.Outcome}

private theorem filterMap_cons_eq {α β : Type} (f : α → Option β) (a : α) (l : List α) :
    (a :: l).filterMap f = (f a).toList ++ l.filterMap f := by
  cases found : f a with
  | none => exact List.filterMap_cons_none found
  | some b => exact List.filterMap_cons_some found

private theorem alike_after {s t : Session} (alike : s.Alike t) {step : Step} (quiet : Quiet outcome s step) :
    (step.after s).Alike (step.deed?.toList.foldl Deed.effect t) := by
  cases step with
  | deed d =>
    rw [after_deed]
    exact alike.effect d
  | advance =>
    rw [after_advance]
    split
    next => exact alike
    next job due _ =>
      have popped : (s.withDue due).Alike s := ⟨rfl, rfl, rfl, rfl, rfl⟩
      exact ((Alike.doing _ job).trans popped).trans alike
  | respond index answer =>
    rw [after_respond]
    split
    next => exact alike
    next => exact ⟨alike.settings, alike.files, alike.editor, alike.clients, alike.attached⟩
  | _ => exact quiet.elim

private theorem alike_run {s t : Session} (alike : s.Alike t) {steps : List Step}
    (quiet : s.Along (Quiet outcome) steps) :
    (s.run steps).Alike ((steps.filterMap Step.deed?).foldl Deed.effect t) := by
  induction steps generalizing s t with
  | nil => exact alike
  | cons step steps ih =>
    rw [filterMap_cons_eq, List.foldl_append]
    exact ih (alike_after alike quiet.1) quiet.2

/-- The requests that a session has yet to send: their buffers and clients. -/
def unsent (s : Session) : List (Ident × Ident) := s.registry.due.filterMap Job.sent?

private theorem unsent_effect (s : Session) (d : Deed) : (d.effect s).unsent = s.unsent ++ d.asks s := by
  have sends : ((d.asks s).map sending).filterMap Job.sent? = d.asks s := by
    rw [List.filterMap_map]
    exact List.filterMap_some
  unfold unsent
  rw [due_effect, List.filterMap_append, sends]

theorem due_doing (s : Session) (job : Job) : (s.doing job).registry.due = s.registry.due := by
  cases job with
  | send buffer client =>
    rw [doing]
    split <;> rfl
  | deliver r answer =>
    rw [doing]
    split <;> rfl

private theorem nextNumber_doing (s : Session) (job : Job) :
    (s.doing job).registry.nextNumber = s.registry.nextNumber + job.sent?.toList.length := by
  cases job with
  | send buffer client =>
    rw [doing]
    split <;> rfl
  | deliver r answer =>
    rw [doing]
    split <;> rfl

private theorem request?_advance {s : Session} {job : Job} {due : List Job} (jobs : s.registry.due = job :: due) :
    (s.request? .advance).toList = numberedFrom s.registry.nextNumber job.sent?.toList := by
  rw [request?, jobs]
  cases job with
  | send buffer client => rfl
  | deliver r answer => rfl

private theorem unsent_after {s t : Session} (alike : s.Alike t) {step : Step} (quiet : Quiet outcome s step) :
    ∃ ps, (s.request? step).toList = numberedFrom s.registry.nextNumber ps ∧
      (step.after s).registry.nextNumber = s.registry.nextNumber + ps.length ∧
      ps ++ (step.after s).unsent = s.unsent ++ asked t step.deed?.toList := by
  cases step with
  | deed d =>
    rw [after_deed]
    refine ⟨[], rfl, nextNumber_effect s d, ?_⟩
    have deeds : asked t [d] = d.asks t := List.append_nil _
    rw [List.nil_append, unsent_effect, alike.asks d]
    exact congrArg (s.unsent ++ ·) deeds.symm
  | advance =>
    rw [after_advance]
    have none : asked t (Step.advance.deed?.toList) = [] := rfl
    rw [none, List.append_nil]
    split
    next empty => exact ⟨[], by rw [request?, empty]; rfl, rfl, rfl⟩
    next job due jobs =>
      refine ⟨job.sent?.toList, request?_advance jobs, nextNumber_doing (s.withDue due) job, ?_⟩
      unfold unsent
      rw [due_doing, jobs, filterMap_cons_eq]
      rfl
  | respond index answer =>
    rw [after_respond]
    have none : asked t ((Step.respond index answer).deed?.toList) = [] := rfl
    rw [none, List.append_nil]
    split
    next => exact ⟨[], rfl, rfl, rfl⟩
    next r _ =>
      refine ⟨[], rfl, rfl, ?_⟩
      show (s.registry.due ++ [Job.deliver r answer]).filterMap Job.sent? = s.unsent
      rw [List.filterMap_append]
      exact List.append_nil _
  | _ => exact quiet.elim

theorem numberedFrom_append (n : Nat) (ps qs : List (Ident × Ident)) :
    numberedFrom n (ps ++ qs) = numberedFrom n ps ++ numberedFrom (n + ps.length) qs := by
  induction ps generalizing n with
  | nil => rfl
  | cons p ps ih =>
    rw [List.cons_append, numberedFrom, ih, numberedFrom, List.length_cons, List.cons_append]
    congr 3
    omega

private theorem asked_append (s : Session) (ds es : List Deed) :
    s.asked (ds ++ es) = s.asked ds ++ (ds.foldl Deed.effect s).asked es := by
  induction ds generalizing s with
  | nil => rfl
  | cons d ds ih =>
    rw [List.cons_append, asked, ih, asked, List.append_assoc]
    rfl

theorem requests_run {s t : Session} (alike : s.Alike t) {steps : List Step} (quiet : s.Along (Quiet outcome) steps) :
    ∃ ps, s.requests steps = numberedFrom s.registry.nextNumber ps ∧
      ps ++ (s.run steps).unsent = s.unsent ++ asked t (steps.filterMap Step.deed?) := by
  induction steps generalizing s t with
  | nil => exact ⟨[], rfl, (List.append_nil _).symm⟩
  | cons step steps ih =>
    obtain ⟨ps, first, nextNumber, taken⟩ := unsent_after alike quiet.1
    obtain ⟨qs, later, rest⟩ := ih (alike_after alike quiet.1) quiet.2
    refine ⟨ps ++ qs, ?_, ?_⟩
    · rw [requests, yields, first, numberedFrom_append, ← nextNumber]
      exact congrArg _ later
    · rw [filterMap_cons_eq, asked_append, List.append_assoc, ← List.append_assoc s.unsent, ← taken, List.append_assoc]
      exact congrArg (ps ++ ·) rest

theorem mem_numberedFrom {n : Nat} {ps : List (Ident × Ident)} {r : Request} (member : r ∈ numberedFrom n ps) :
    n ≤ r.number ∧ (r.buffer, r.client) ∈ ps := by
  induction ps generalizing n with
  | nil => cases member
  | cons p ps ih =>
    rcases List.mem_cons.1 member with rfl | later
    · exact ⟨Nat.le_refl n, List.mem_cons_self⟩
    · obtain ⟨above, pair⟩ := ih later
      exact ⟨Nat.le_of_succ_le above, List.mem_cons_of_mem p pair⟩

theorem pairwise_numberedFrom (n : Nat) (ps : List (Ident × Ident)) :
    (numberedFrom n ps).Pairwise fun q r => q.number < r.number := by
  induction ps generalizing n with
  | nil => exact .nil
  | cons p ps ih => exact List.pairwise_cons.2 ⟨fun r later => (mem_numberedFrom later).1, ih (n + 1)⟩

theorem supports_effect (s : Session) (d : Deed) : (d.effect s).registry.supports = s.registry.supports := by
  obtain ⟨attached, registry⟩ := registry_effect s d
  rw [registry]
  rfl

private theorem supports_of_asked {s : Session} {ds : List Deed} {p : Ident × Ident} (member : p ∈ s.asked ds) :
    s.registry.supports p.2 = true := by
  induction ds generalizing s with
  | nil => cases member
  | cons d ds ih =>
    rcases List.mem_append.1 member with own | later
    · exact (mem_asks own).2
    · rw [← supports_effect s d]
      exact ih later

section Settled

variable {s : Session} {first : List Step} (quiet : s.Along (Quiet outcome) first)
  (done : (s.run first).registry.due = [])

include quiet done

theorem requests_of_done :
    s.requests first = numberedFrom s.registry.nextNumber (s.unsent ++ s.asked (first.filterMap Step.deed?)) := by
  obtain ⟨ps, numbered, rest⟩ := requests_run (Alike.refl s) quiet
  have none : (s.run first).unsent = [] := by rw [unsent, done]; rfl
  rw [none, List.append_nil] at rest
  rw [numbered, rest]

/-- The requests of a run are determined by its deeds. -/
theorem requests_eq {second : List Step} (quiet' : s.Along (Quiet outcome) second)
    (done' : (s.run second).registry.due = [])
    (same : first.filterMap Step.deed? = second.filterMap Step.deed?) : s.requests first = s.requests second := by
  rw [requests_of_done quiet done, requests_of_done quiet' done', same]

theorem supports_of_requests (none : s.unsent = []) {r : Request} (member : r ∈ s.requests first) :
    s.registry.supports r.client = true := by
  rw [requests_of_done quiet done, none, List.nil_append] at member
  exact supports_of_asked (mem_numberedFrom member).2

end Settled

theorem editor_eq {s : Session} {first second : List Step} (quiet : s.Along (Quiet outcome) first)
    (quiet' : s.Along (Quiet outcome) second)
    (same : first.filterMap Step.deed? = second.filterMap Step.deed?) :
    (s.run first).editor = (s.run second).editor := by
  have one := alike_run (Alike.refl s) quiet
  have other := alike_run (Alike.refl s) quiet'
  rw [one.editor, other.editor, same]

end Session

end HintLine
