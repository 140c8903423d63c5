import HintLine.Proofs.Session.Coherence
import Mathlib.Data.List.Perm.Basic

/-!
How requests are numbered. Those that are pending, in flight or about to be delivered, have numbers of their own,
and none has the number that was last applied in its buffer. This holds as long as every response comes from a
request of the session itself.
-/

set_option autoImplicit false

namespace HintLine

open HintLine.Client (Answer Job Registry Request)

/-- The request whose answer a job delivers, if it does that. -/
def Client.Job.answered? : Job → Option Request
  | .send _ _ => none
  | .deliver r _ => some r

namespace Session

/-- Any step but one that delivers a response from elsewhere. -/
def Step.Own : Step → Prop
  | dispatch _ _ => False
  | _ => True

/-- The requests that are in flight, or whose answers are about to be delivered. -/
def pending (s : Session) : List Request :=
  s.registry.inFlight ++ s.registry.due.filterMap Job.answered?

/-- A buffer that has been opened at some time. -/
def Knows (s : Session) (b : Ident) : Prop := ∃ n : Nat, b = .number n ∧ n < s.editor.nextId

/-- A session in which requests have numbers of their own and are for buffers that have been opened. -/
structure Numbered (s : Session) : Prop where
  below : ∀ r ∈ s.pending, r.number < s.registry.nextNumber
  distinct : (s.pending.map Request.number).Nodup
  newest : ∀ b n, s.collector.applied.get? b = some n →
    n < s.registry.nextNumber ∧ ∀ r ∈ s.pending, r.buffer = b → (r.number : Int) ≠ n
  pending : ∀ r ∈ s.pending, s.Knows r.buffer
  due : ∀ b c, Job.send b c ∈ s.registry.due → s.Knows b
  attached : ∀ b, s.registry.attachedTo b ≠ [] → s.Knows b

/-- The requests that a deed schedules: their buffers and clients. -/
def Deed.asks (s : Session) : Deed → List (Ident × Ident)
  | enable buffer => ((s.registry.attachedTo buffer).filter s.registry.supports).map (buffer, ·)
  | attached buffer client =>
    if s.asksItself client then ((s.registry.attachedTo buffer).filter s.registry.supports).map (buffer, ·)
    else []
  | _ => []

def sending (p : Ident × Ident) : Job := .send p.1 p.2

theorem registry_effect (s : Session) (d : Deed) :
    ∃ attached, (d.effect s).registry = { s.registry.schedule (d.asks s) with attached } := by
  have same : s.registry = { s.registry.schedule [] with attached := s.registry.attached } := by
    rw [Registry.schedule_nil]
  cases d with
  | enable buffer => exact ⟨_, rfl⟩
  | attached buffer client =>
    rw [Deed.effect, Deed.asks]
    split
    · exact ⟨_, rfl⟩
    · exact ⟨_, same⟩
  | attach buffer client =>
    rw [Deed.effect]
    split
    · refine ⟨(s.registry.link buffer client).attached, ?_⟩
      have none : s.registry.schedule ((Deed.attach buffer client).asks s) = s.registry := Registry.schedule_nil _
      rw [none]
      rfl
    · exact ⟨_, same⟩
  | closeBuffer | setCurrent =>
    rw [Deed.effect]
    split <;> exact ⟨_, same⟩
  | openBuffer | setCursor | parse | hold | silence => exact ⟨_, same⟩

theorem due_effect (s : Session) (d : Deed) :
    (d.effect s).registry.due = s.registry.due ++ (d.asks s).map sending := by
  obtain ⟨attached, registry⟩ := registry_effect s d
  rw [registry]
  rfl

private theorem inFlight_effect (s : Session) (d : Deed) : (d.effect s).registry.inFlight = s.registry.inFlight := by
  obtain ⟨attached, registry⟩ := registry_effect s d
  rw [registry]
  rfl

theorem nextNumber_effect (s : Session) (d : Deed) : (d.effect s).registry.nextNumber = s.registry.nextNumber := by
  obtain ⟨attached, registry⟩ := registry_effect s d
  rw [registry]
  rfl

theorem pending_effect (s : Session) (d : Deed) : (d.effect s).pending = s.pending := by
  have none : ((d.asks s).map sending).filterMap Job.answered? = [] := by
    rw [List.filterMap_eq_nil_iff]
    intro job member
    obtain ⟨p, -, rfl⟩ := List.mem_map.1 member
    rfl
  unfold pending
  rw [inFlight_effect, due_effect, List.filterMap_append, none, List.append_nil]

theorem pending_answering {s : Session} {index : Nat} {r : Request} (found : s.registry.inFlight[index]? = some r)
    (answer : Answer) : (s.answering index r answer).pending.Perm s.pending := by
  obtain ⟨inside, rfl⟩ := List.getElem?_eq_some_iff.1 found
  have moved := List.getElem_cons_eraseIdx_perm inside
  unfold pending answering
  dsimp only
  rw [List.filterMap_append, ← List.append_assoc]
  exact (List.perm_append_singleton _ _).trans (moved.append_right _)

theorem pending_deliver {s : Session} {r : Request} {answer : Answer} {due : List Job}
    (jobs : s.registry.due = .deliver r answer :: due) : s.pending.Perm (r :: (s.withDue due).pending) := by
  unfold pending
  rw [jobs]
  exact List.perm_middle

theorem pending_send {s : Session} {buffer client : Ident} {due : List Job}
    (jobs : s.registry.due = .send buffer client :: due) : (s.withDue due).pending = s.pending := by
  unfold pending
  rw [jobs]
  rfl

theorem Knows.mono {s t : Session} {b : Ident} (knows : s.Knows b) (grows : s.editor.nextId ≤ t.editor.nextId) :
    t.Knows b := by
  obtain ⟨n, rfl, given⟩ := knows
  exact ⟨n, rfl, Nat.lt_of_lt_of_le given grows⟩

theorem mem_asks {s : Session} {d : Deed} {p : Ident × Ident} (asks : p ∈ d.asks s) :
    s.registry.attachedTo p.1 ≠ [] ∧ s.registry.supports p.2 = true := by
  have enabled {buffer : Ident} (asks : p ∈ (Deed.enable buffer).asks s) :
      s.registry.attachedTo p.1 ≠ [] ∧ s.registry.supports p.2 = true := by
    obtain ⟨client, chosen, rfl⟩ := List.mem_map.1 asks
    obtain ⟨member, gives⟩ := List.mem_filter.1 chosen
    exact ⟨List.ne_nil_of_mem member, gives⟩
  cases d with
  | enable buffer => exact enabled asks
  | attached buffer client =>
    rw [Deed.asks] at asks
    split at asks
    · exact enabled asks
    · cases asks
  | _ => cases asks

private theorem attachedTo_effect {s : Session} {d : Deed} {b : Ident}
    (some : (d.effect s).registry.attachedTo b ≠ []) : s.registry.attachedTo b ≠ [] ∨ s.editor.isOpen b = true := by
  cases d with
  | attach buffer client =>
    rw [Deed.effect] at some
    split at some
    next able =>
      by_cases own : b = buffer
      · rw [canAttach, Bool.and_eq_true] at able
        exact Or.inr (own ▸ able.1)
      · left
        have same : (s.registry.link buffer client).attachedTo b = s.registry.attachedTo b :=
          congrArg (·.getD []) (Table.get?_insert_of_ne s.registry.attached own _)
        change (s.registry.link buffer client).attachedTo b ≠ [] at some
        rwa [same] at some
    next => exact Or.inl some
  | closeBuffer | setCurrent | attached =>
    left
    rw [Deed.effect] at some
    split at some <;> exact some
  | openBuffer | setCursor | parse | enable | hold | silence => exact Or.inl some

private theorem Coherent.knows {s : Session} (coherent : s.Coherent) {b : Ident} (isOpen : s.editor.isOpen b = true) :
    s.Knows b := by
  obtain ⟨buffer, found⟩ := Option.isSome_iff_exists.1 isOpen
  obtain ⟨named, given⟩ := coherent.editor.ident b buffer found
  exact ⟨buffer.id, named, given⟩

namespace Numbered

theorem new (settings : Settings Plugin.Callable) (files : Files) (area : Terminal.EchoArea) (parses : Bool) :
    (Session.new settings files area parses).Numbered := by
  refine ⟨?_, List.nodup_nil, ?_, ?_, ?_, ?_⟩
  · intro r member
    cases member
  · intro b n newest
    cases newest
  · intro r member
    cases member
  · intro b c member
    cases member
  · intro b some
    exact (some rfl).elim

private theorem of_subperm {s t : Session} (numbered : s.Numbered) (pending : t.pending.Subperm s.pending)
    (nextNumber : s.registry.nextNumber ≤ t.registry.nextNumber)
    (newest : ∀ b n, t.collector.applied.get? b = some n → s.collector.applied.get? b = some n)
    (nextId : s.editor.nextId ≤ t.editor.nextId) (due : ∀ b c, Job.send b c ∈ t.registry.due → t.Knows b)
    (attached : ∀ b, t.registry.attachedTo b ≠ [] → t.Knows b) : t.Numbered where
  below r member := Nat.lt_of_lt_of_le (numbered.below r (pending.subset member)) nextNumber
  distinct := by
    obtain ⟨l, same, part⟩ := pending
    exact (same.map _).nodup_iff.1 ((part.map _).nodup numbered.distinct)
  newest b n applied := by
    obtain ⟨below, other⟩ := numbered.newest b n (newest b n applied)
    exact ⟨by omega, fun r member => other r (pending.subset member)⟩
  pending r member := (numbered.pending r (pending.subset member)).mono nextId
  due := due
  attached := attached

private theorem beside {s t : Session} (numbered : s.Numbered) (beside : s.Beside t) : t.Numbered := by
  have same : t.pending = s.pending := by
    unfold Session.pending
    rw [beside.inFlight, beside.due]
  have knows {b : Ident} (known : s.Knows b) : t.Knows b := known.mono (Nat.le_of_eq (by rw [beside.editor]))
  refine numbered.of_subperm (same ▸ List.Subperm.refl _) (Nat.le_of_eq beside.nextNumber.symm) ?_
    (Nat.le_of_eq (by rw [beside.editor])) ?_ ?_
  · intro b n newest
    rwa [beside.collector] at newest
  · intro b c member
    rw [beside.due] at member
    exact knows (numbered.due b c member)
  · intro b some
    exact knows (numbered.attached b (beside.attached b some))

private theorem effect {s : Session} (coherent : s.Coherent) (numbered : s.Numbered) (d : Deed) :
    (d.effect s).Numbered := by
  have grows : s.editor.nextId ≤ (d.effect s).editor.nextId := by
    rw [nextId_effect]
    exact Nat.le_add_right _ _
  refine numbered.of_subperm (pending_effect s d ▸ List.Subperm.refl _) (Nat.le_of_eq (nextNumber_effect s d).symm)
    ?_ grows ?_ ?_
  · intro b n newest
    have silent : ∀ r ∈ s.response? (.deed d), r.buffer ≠ b := fun r member => by cases member
    have kept := s.kept_after (.deed d) silent
    rw [after_deed] at kept
    rcases kept with same | gone
    · exact (congrArg Collector.Kept.newest same).symm.trans newest
    · have none : (d.effect s).collector.applied.get? b = none := congrArg Collector.Kept.newest gone
      rw [none] at newest
      cases newest
  · intro b c member
    rw [due_effect] at member
    rcases List.mem_append.1 member with earlier | asked
    · exact (numbered.due b c earlier).mono grows
    · obtain ⟨p, asks, same⟩ := List.mem_map.1 asked
      cases same
      exact (numbered.attached _ (mem_asks asks).1).mono grows
  · intro b some
    rcases attachedTo_effect some with before | isOpen
    · exact (numbered.attached b before).mono grows
    · exact (coherent.knows isOpen).mono grows

private theorem launching {s : Session} (numbered : s.Numbered) {r : Request} (below : r.number < s.registry.nextNumber)
    (new : ∀ q ∈ s.pending, q.number ≠ r.number)
    (newest : ∀ b n, s.collector.applied.get? b = some n → (r.number : Int) ≠ n) (knows : s.Knows r.buffer) :
    (s.launching r).Numbered := by
  have more : (s.launching r).pending.Perm (r :: s.pending) := by
    unfold Session.pending Session.launching
    dsimp only
    rw [List.append_assoc]
    exact List.perm_middle
  have either {q : Request} (member : q ∈ (s.launching r).pending) : q = r ∨ q ∈ s.pending :=
    List.mem_cons.1 (more.mem_iff.1 member)
  refine ⟨?_, ?_, ?_, ?_, numbered.due, numbered.attached⟩
  · intro q member
    rcases either member with rfl | old
    · exact below
    · exact numbered.below q old
  · rw [(more.map _).nodup_iff, List.map_cons, List.nodup_cons]
    refine ⟨?_, numbered.distinct⟩
    intro twice
    obtain ⟨q, member, same⟩ := List.mem_map.1 twice
    exact new q member same
  · intro b n applied
    obtain ⟨less, other⟩ := numbered.newest b n applied
    refine ⟨less, ?_⟩
    intro q member own
    rcases either member with rfl | old
    · exact newest b n applied
    · exact other q old own
  · intro q member
    rcases either member with rfl | old
    · exact knows
    · exact numbered.pending q old

private theorem taking {s : Session} (numbered : s.Numbered) {r : Response}
    (number : ∀ n, r.request = some n → n < s.registry.nextNumber ∧ ∀ q ∈ s.pending, (q.number : Int) ≠ n) :
    (s.taking r).Numbered := by
  refine ⟨numbered.below, numbered.distinct, ?_, numbered.pending, numbered.due, numbered.attached⟩
  intro b n newest
  rcases Collector.newest_receive _ _ newest with before | ⟨-, own⟩
  · exact numbered.newest b n before
  · obtain ⟨less, other⟩ := number n own
    exact ⟨less, fun q member _ => other q member⟩

private theorem withDue {s : Session} (numbered : s.Numbered) {job : Job} {due : List Job}
    (jobs : s.registry.due = job :: due) : (s.withDue due).Numbered := by
  refine numbered.of_subperm ?_ (Nat.le_refl _) (fun _ _ => id) (Nat.le_refl _) ?_ numbered.attached
  · have rest : (due.filterMap Job.answered?).Sublist (s.registry.due.filterMap Job.answered?) := by
      rw [jobs]
      exact (List.sublist_cons_self job due).filterMap _
    exact (rest.append_left s.registry.inFlight).subperm
  · intro b c member
    exact numbered.due b c (by rw [jobs]; exact List.mem_cons_of_mem job member)

private theorem numbering {s : Session} (numbered : s.Numbered) : s.numbering.Numbered :=
  numbered.of_subperm (List.Subperm.refl _) (Nat.le_succ _) (fun _ _ => id) (Nat.le_refl _) numbered.due
    numbered.attached

private theorem discarding {s : Session} (numbered : s.Numbered) (r : Request) : (s.discarding r).Numbered :=
  ⟨numbered.below, numbered.distinct, numbered.newest, numbered.pending, numbered.due, numbered.attached⟩

private theorem ne_nextNumber {s : Session} (numbered : s.Numbered) {q : Request} (member : q ∈ s.pending) :
    q.number ≠ s.registry.nextNumber := Nat.ne_of_lt (numbered.below q member)

private theorem doing_send {s : Session} (numbered : s.Numbered) {buffer client : Ident} (knows : s.Knows buffer) :
    (s.doing (.send buffer client)).Numbered := by
  rw [Session.doing]
  split
  · refine numbered.numbering.launching (Nat.lt_succ_self _) ?_ ?_ knows
    · intro q member
      exact numbered.ne_nextNumber member
    · intro b n newest same
      obtain ⟨less, -⟩ := numbered.newest b n newest
      change (s.registry.nextNumber : Int) = n at same
      omega
  · -- The number was given out all the same; no request is pending under it.
    refine (numbered.numbering.taking ?_).discarding _
    intro n own
    obtain rfl : (s.registry.nextNumber : Int) = n := Option.some.inj own
    refine ⟨Int.ofNat_lt.2 (Nat.lt_succ_self _), ?_⟩
    intro q member same
    exact numbered.ne_nextNumber member (Int.ofNat.inj same)

private theorem doing_deliver {s : Session} (numbered : s.Numbered) {r : Request} {answer : Answer}
    (below : r.number < s.registry.nextNumber) (other : ∀ q ∈ s.pending, q.number ≠ r.number) :
    (s.doing (.deliver r answer)).Numbered := by
  rw [Session.doing]
  split
  next response made =>
    refine (numbered.taking ?_).discarding r
    intro n own
    obtain rfl : (r.number : Int) = n := by
      cases answer with
      | hints | refused =>
        cases made
        exact Option.some.inj own
      | broken => cases made
    exact ⟨Int.ofNat_lt.2 below, fun q member same => other q member (Int.ofNat.inj same)⟩
  next => exact numbered.discarding r

private theorem after_advance {s : Session} (numbered : s.Numbered) : (Step.advance.after s).Numbered := by
  rw [Session.after_advance]
  split
  next => exact numbered
  next job due jobs =>
    have popped := numbered.withDue jobs
    cases job with
    | send buffer client =>
      exact popped.doing_send (numbered.due buffer client (by rw [jobs]; exact List.mem_cons_self))
    | deliver r answer =>
      have whole := pending_deliver jobs
      have distinct := (whole.map Request.number).nodup_iff.1 numbered.distinct
      rw [List.map_cons, List.nodup_cons] at distinct
      refine popped.doing_deliver (numbered.below r (whole.mem_iff.2 List.mem_cons_self)) ?_
      intro q member same
      exact distinct.1 (same ▸ List.mem_map_of_mem member)

theorem after {s : Session} (coherent : s.Coherent) (numbered : s.Numbered) {step : Step} (own : step.Own) :
    (step.after s).Numbered := by
  cases step with
  | deed d =>
    rw [after_deed]
    exact effect coherent numbered d
  | register client c => exact numbered.beside (moves_register client c s)
  | unregister client => exact numbered.beside (moves_unregister client s)
  | start client server command root => exact numbered.beside (moves_start client server command root s)
  | stop => exact numbered.beside (moves_stop s)
  | advance => exact numbered.after_advance
  | respond index answer =>
    rw [after_respond]
    split
    next => exact numbered
    next r found =>
      refine numbered.of_subperm (pending_answering found answer).subperm (Nat.le_refl _) (fun _ _ => id)
        (Nat.le_refl _) ?_ numbered.attached
      intro b c member
      rcases List.mem_append.1 member with earlier | last
      · exact numbered.due b c earlier
      · cases List.mem_singleton.1 last
  | dispatch method r => exact own.elim

theorem run {s : Session} (coherent : s.Coherent) (numbered : s.Numbered) {steps : List Step}
    (own : ∀ step ∈ steps, step.Own) : (s.run steps).Numbered := by
  induction steps generalizing s with
  | nil => exact numbered
  | cons step steps ih =>
    have first := after coherent numbered (own step List.mem_cons_self)
    exact ih (coherent.after step) first fun later member => own later (List.mem_cons_of_mem step member)

end Numbered

end Session

end HintLine
