import HintLine.Proofs.Session.Schedule
import Mathlib.Data.List.Nodup

/-!
Answers may come in any order. While the clients stay as they are, a buffer keeps what it kept before, or else the
outcome of one of its requests; and every request that was dealt with is no newer than that one. So where all are
dealt with, it is the newest, whichever came last.
-/

set_option autoImplicit false

namespace HintLine

open HintLine.Client (Answer Job Request)

/-- What is kept of a buffer before and after the response to a numbered request of it: one to a later request was
kept, and still is, or else this one is. -/
inductive Collector.Settled (before after : Collector.Kept) (number : Nat) (bucket : Bucket) : Prop where
  | late {n : Int} (newest : before.newest = some n) (later : number < n) (same : after = before)
  | kept (bound : ∀ n, before.newest = some n → n ≤ number) (now : after = ⟨some bucket, some (number : Int)⟩)

namespace Collector.Settled

variable {before after : Collector.Kept} {number : Nat} {bucket : Bucket}

private theorem le_newest (settled : Settled before after number bucket) : ∃ n, after.newest = some n ∧ number ≤ n := by
  cases settled with
  | late newest later same => exact ⟨_, same ▸ newest, Int.le_of_lt later⟩
  | kept bound now => exact ⟨number, congrArg Kept.newest now, Int.le_refl _⟩

private theorem newest_le (settled : Settled before after number bucket) {m : Int} (newest : before.newest = some m) :
    ∃ n, after.newest = some n ∧ m ≤ n := by
  cases settled with
  | late _ _ same => exact ⟨m, same ▸ newest, Int.le_refl m⟩
  | kept bound now => exact ⟨number, congrArg Kept.newest now, bound m newest⟩

end Collector.Settled

namespace Session

variable (outcome : Request → Client.Outcome)

/-- The bucket that the outcome of a request stands for. -/
def granted (s : Session) (r : Request) : Bucket :=
  match outcome r with
  | .ok (some inlays) =>
    if r.client ≠ .absent ∧ s.registry.supports r.client = true then Bucket.ofInlays inlays else Table.empty
  | _ => Table.empty

/-- What is kept of a buffer once a request is the newest that was dealt with. -/
def granting (s : Session) (r : Request) : Collector.Kept := ⟨some (s.granted outcome r), some r.number⟩

variable {outcome}

private theorem response_outcome (r : Request) :
    ∃ response, r.response (outcome r).answer = .ok response ∧ response.buffer = r.buffer ∧
      response.request = some (r.number : Int) ∧
      ∀ s t : Session, t.registry.supports = s.registry.supports →
        Collector.standsFor t.surroundings response = s.granted outcome r := by
  unfold granted
  cases result : outcome r with
  | error e => exact ⟨_, rfl, rfl, rfl, fun _ _ _ => rfl⟩
  | ok hints =>
    refine ⟨_, rfl, rfl, rfl, ?_⟩
    intro s t same
    cases hints with
    | none => rfl
    | some inlays =>
      show (if r.client ≠ .absent ∧ t.registry.supports r.client = true then _ else _) = _
      rw [same]

private theorem granted_of_unsupported {s : Session} {r : Request} (silent : s.registry.supports r.client = false) :
    s.granted outcome r = Table.empty := by
  unfold granted
  split
  · exact if_neg (by simp [silent])
  · rfl

private theorem kept_taking {t : Session} (reliable : Message.Reliable t.outlet) {response : Response} {number : Nat}
    (numbered : response.request = some (number : Int)) (isOpen : t.editor.isOpen response.buffer = true)
    (named : response.buffer ≠ .absent) :
    Collector.Settled (t.collector.kept response.buffer) ((t.taking response).collector.kept response.buffer) number
      (Collector.standsFor t.surroundings response) := by
  have outcome := Collector.received t.surroundings response t.collector
  unfold taking
  dsimp only
  generalize (Collector.receive t.surroundings response t.collector).state = after at outcome ⊢
  cases outcome with
  | anonymous unnamed => exact (named unnamed).elim
  | gone _ isGone =>
    rw [show t.surroundings.isOpen response.buffer = true from isOpen] at isGone
    cases isGone
  | outdated _ _ late =>
    unfold Collector.isOutdated at late
    rw [numbered] at late
    cases newest : t.collector.applied.get? response.buffer with
    | none =>
      rw [newest] at late
      cases late
    | some n =>
      rw [newest] at late
      exact .late newest (of_decide_eq_true late) rfl
  | unreported _ _ _ _ unreliable => exact (unreliable reliable).elim
  | stored _ _ inTime =>
    unfold Collector.isOutdated at inTime
    rw [numbered] at inTime
    refine .kept ?_ ?_
    · intro n newest
      change t.collector.applied.get? response.buffer = some n at newest
      rw [newest] at inTime
      exact Int.not_lt.1 (of_decide_eq_false inTime)
    · rw [Collector.kept_store_self, numbered]
      rfl

private theorem supports_of_unable {s : Session} {buffer client : Ident} (isOpen : s.editor.isOpen buffer = true)
    (unable : ¬ s.canSend buffer client = true) : s.registry.supports client = false := by
  have gone : s.registry.clients.get? client = none := by
    simpa [canSend, isOpen, Table.contains] using unable
  unfold Client.Registry.supports
  rw [gone]

private theorem own_of_quiet {s : Session} {step : Step} (quiet : Quiet outcome s step) : step.Own := by
  cases step with
  | deed | advance | respond => trivial
  | _ => exact quiet.elim

private theorem own_of_along {s : Session} {steps : List Step} (quiet : s.Along (Quiet outcome) steps) :
    ∀ step ∈ steps, step.Own := by
  induction steps generalizing s with
  | nil =>
    intro step member
    cases member
  | cons step steps ih =>
    intro x member
    rcases List.mem_cons.1 member with rfl | later
    · exact own_of_quiet quiet.1
    · exact ih quiet.2 x later

private theorem reliable_effect {s : Session} (reliable : Message.Reliable s.outlet) (d : Deed) :
    Message.Reliable (d.effect s).outlet := by
  cases d with
  | silence => exact Message.reliable_none
  | openBuffer | setCursor | parse | enable | hold => exact reliable
  | closeBuffer | setCurrent | attach | attached =>
    rw [Deed.effect]
    split <;> exact reliable

private theorem kept_effect (s : Session) (d : Deed) {b : Ident} (isOpen : (d.effect s).editor.isOpen b = true) :
    (s.editor.isOpen b = true ∨ b = .number s.editor.nextId) ∧
      (d.effect s).collector.kept b = s.collector.kept b := by
  cases d with
  | openBuffer path text languageId =>
    refine ⟨?_, rfl⟩
    change (s.editor.opened (s.uriOf path) text languageId).1.isOpen b = true at isOpen
    rw [Editor.isOpen_opened] at isOpen
    split at isOpen
    next own => exact Or.inr own
    next => exact Or.inl isOpen
  | closeBuffer buffer =>
    have editor : ((Deed.closeBuffer buffer).effect s).editor = s.editor.closed buffer := by
      rw [Deed.effect]
      split <;> rfl
    rw [editor, Editor.isOpen_closed] at isOpen
    split at isOpen
    next => cases isOpen
    next other =>
      refine ⟨Or.inl isOpen, ?_⟩
      rw [Deed.effect]
      split
      · exact Collector.kept_forget_of_ne s.collector other
      · rfl
  | setCurrent | attach | attached =>
    rw [Deed.effect] at isOpen ⊢
    split at isOpen
    next chosen =>
      rw [if_pos chosen]
      exact ⟨Or.inl isOpen, rfl⟩
    next other =>
      rw [if_neg other]
      exact ⟨Or.inl isOpen, rfl⟩
  | setCursor | parse | enable | hold | silence => exact ⟨Or.inl isOpen, rfl⟩

/-- Two sessions with the same buffers and clients, the second of which has answers by their outcomes alone due and
gets messages through. -/
structure Steady (outcome : Request → Client.Outcome) (t u : Session) : Prop where
  editor : u.editor = t.editor
  supports : u.registry.supports = t.registry.supports
  reliable : Message.Reliable u.outlet
  agreed : ∀ r a, Job.deliver r a ∈ u.registry.due → a = (outcome r).answer

/-- How a session `t` may look that a session `s` has led to, if `rs` are the requests that were pending in `s` or
have been made since: of each buffer that is open, what was kept is still kept or is the outcome of one of them that
is newer; and those that are not pending any more are no newer than what is kept. -/
structure Stretch (outcome : Request → Client.Outcome) (s t : Session) (rs : List Request) : Prop where
  supports : t.registry.supports = s.registry.supports
  reliable : Message.Reliable t.outlet
  agreed : ∀ r a, Job.deliver r a ∈ t.registry.due → a = (outcome r).answer
  nextId : s.editor.nextId ≤ t.editor.nextId
  pending : ∀ r ∈ t.pending, r ∈ rs
  known : ∀ r ∈ rs, t.Knows r.buffer
  dealt : ∀ r ∈ rs, t.editor.isOpen r.buffer = true →
    r ∈ t.pending ∨ ∃ n, t.collector.applied.get? r.buffer = some n ∧ r.number ≤ n
  kept : ∀ b, t.editor.isOpen b = true → t.collector.kept b = s.collector.kept b ∨
    ∃ r ∈ rs, r.buffer = b ∧ (∀ n, s.collector.applied.get? b = some n → n < r.number) ∧
      t.collector.kept b = s.granting outcome r

namespace Stretch

variable {s t u : Session} {rs : List Request}

private theorem refl (numbered : s.Numbered) (reliable : Message.Reliable s.outlet)
    (agreed : ∀ r a, Job.deliver r a ∈ s.registry.due → a = (outcome r).answer) :
    Stretch outcome s s s.pending where
  supports := rfl
  reliable := reliable
  agreed := agreed
  nextId := Nat.le_refl _
  pending _ := id
  known := numbered.pending
  dealt _ member _ := Or.inl member
  kept _ _ := Or.inl rfl

private theorem newer (stretch : Stretch outcome s t rs) {b : Ident} (isOpen : t.editor.isOpen b = true) {number : Nat}
    (newer : ∀ n, t.collector.applied.get? b = some n → n < number) :
    ∀ n, s.collector.applied.get? b = some n → n < number := by
  intro n before
  rcases stretch.kept b isOpen with same | ⟨r, -, -, above, granting⟩
  · exact newer n ((congrArg Collector.Kept.newest same).trans before)
  · have now := newer r.number (congrArg Collector.Kept.newest granting)
    have then_ := above n before
    omega

private theorem knows (stretch : Stretch outcome s t rs) (steady : Steady outcome t u) {r : Request} (member : r ∈ rs) :
    u.Knows r.buffer :=
  (stretch.known r member).mono (Nat.le_of_eq (by rw [steady.editor]))

private theorem more (stretch : Stretch outcome s t rs) (steady : Steady outcome t u)
    (collector : u.collector = t.collector) {new : List Request} (known : ∀ r ∈ new, u.Knows r.buffer)
    (pending : ∀ r, r ∈ u.pending ↔ r ∈ t.pending ∨ r ∈ new) : Stretch outcome s u (rs ++ new) where
  supports := steady.supports.trans stretch.supports
  reliable := steady.reliable
  agreed := steady.agreed
  nextId := by
    rw [steady.editor]
    exact stretch.nextId
  pending r member := by
    rcases (pending r).1 member with old | made
    · exact List.mem_append_left new (stretch.pending r old)
    · exact List.mem_append_right rs made
  known r member := by
    rcases List.mem_append.1 member with old | made
    · exact stretch.knows steady old
    · exact known r made
  dealt r member isOpen := by
    rw [steady.editor] at isOpen
    rw [collector, pending]
    rcases List.mem_append.1 member with old | made
    · exact (stretch.dealt r old isOpen).imp_left Or.inl
    · exact Or.inl (Or.inr made)
  kept b isOpen := by
    rw [steady.editor] at isOpen
    rw [collector]
    rcases stretch.kept b isOpen with same | ⟨r, old, found⟩
    · exact Or.inl same
    · exact Or.inr ⟨r, List.mem_append_left new old, found⟩

private theorem taken (stretch : Stretch outcome s t rs) (steady : Steady outcome t u) {r : Request} (made : r ∈ rs)
    (pending : ∀ q ∈ u.pending, q ∈ t.pending) (left : ∀ q ∈ t.pending, q = r ∨ q ∈ u.pending)
    (new : ∀ n, t.collector.applied.get? r.buffer = some n → (r.number : Int) ≠ n)
    (other : ∀ b, b ≠ r.buffer → u.collector.kept b = t.collector.kept b)
    (own : t.editor.isOpen r.buffer = true →
      Collector.Settled (t.collector.kept r.buffer) (u.collector.kept r.buffer) r.number (s.granted outcome r)) :
    Stretch outcome s u rs where
  supports := steady.supports.trans stretch.supports
  reliable := steady.reliable
  agreed := steady.agreed
  nextId := by
    rw [steady.editor]
    exact stretch.nextId
  pending q member := stretch.pending q (pending q member)
  known q member := stretch.knows steady member
  dealt q member isOpen := by
    rw [steady.editor] at isOpen
    have before := stretch.dealt q member isOpen
    by_cases same : q.buffer = r.buffer
    · rw [same] at before isOpen ⊢
      have settled := own isOpen
      rcases before with waiting | ⟨m, applied, above⟩
      · rcases left q waiting with rfl | stays
        · exact Or.inr settled.le_newest
        · exact Or.inl stays
      · obtain ⟨n, now, later⟩ := settled.newest_le applied
        exact Or.inr ⟨n, now, Int.le_trans above later⟩
    · have kept := congrArg Collector.Kept.newest (other q.buffer same)
      change u.collector.applied.get? q.buffer = t.collector.applied.get? q.buffer at kept
      rw [kept]
      refine before.imp_left fun waiting => ?_
      rcases left q waiting with rfl | stays
      · exact (same rfl).elim
      · exact stays
  kept b isOpen := by
    rw [steady.editor] at isOpen
    by_cases same : b = r.buffer
    · subst same
      cases own isOpen with
      | late _ _ kept =>
        rw [kept]
        exact stretch.kept r.buffer isOpen
      | kept bound kept =>
        refine Or.inr ⟨r, made, rfl, stretch.newer isOpen ?_, kept⟩
        intro n newest
        have below := bound n newest
        have differs := new n newest
        omega
    · rw [other b same]
      exact stretch.kept b isOpen

private theorem discarding (stretch : Stretch outcome s t rs) (r : Request) : Stretch outcome s (t.discarding r) rs :=
  ⟨stretch.supports, stretch.reliable, stretch.agreed, stretch.nextId, stretch.pending, stretch.known, stretch.dealt,
    stretch.kept⟩

private theorem effect (coherent : s.Coherent) (there : t.Coherent) (stretch : Stretch outcome s t rs) (d : Deed) :
    Stretch outcome s (d.effect t) rs where
  supports := (supports_effect t d).trans stretch.supports
  reliable := reliable_effect stretch.reliable d
  agreed r a member := by
    rw [due_effect] at member
    rcases List.mem_append.1 member with before | asked
    · exact stretch.agreed r a before
    · obtain ⟨p, -, same⟩ := List.mem_map.1 asked
      cases same
  nextId := by
    rw [nextId_effect]
    exact Nat.le_trans stretch.nextId (Nat.le_add_right _ _)
  pending r member := stretch.pending r (pending_effect t d ▸ member)
  known r member := (stretch.known r member).mono (by rw [nextId_effect]; exact Nat.le_add_right _ _)
  dealt r member isOpen := by
    obtain ⟨before | fresh, kept⟩ := t.kept_effect d isOpen
    · rw [pending_effect, show (d.effect t).collector.applied.get? r.buffer = t.collector.applied.get? r.buffer from
        congrArg Collector.Kept.newest kept]
      exact stretch.dealt r member before
    · obtain ⟨n, named, given⟩ := stretch.known r member
      rw [fresh] at named
      have same : (t.editor.nextId : Int) = n := Ident.number.inj named
      omega
  kept b isOpen := by
    obtain ⟨before | fresh, kept⟩ := t.kept_effect d isOpen
    · rw [kept]
      exact stretch.kept b before
    · rw [kept, fresh, there.kept_unopened (Nat.le_refl _), coherent.kept_unopened stretch.nextId]
      exact Or.inl rfl

private theorem own_taking {p : Session} {r : Request} {response : Response} (knows : p.Knows r.buffer)
    (reliable : Message.Reliable p.outlet) (buffer : response.buffer = r.buffer)
    (request : response.request = some (r.number : Int))
    (stands : p.editor.isOpen r.buffer = true →
      Collector.standsFor p.surroundings response = s.granted outcome r) (isOpen : p.editor.isOpen r.buffer = true) :
    Collector.Settled (p.collector.kept r.buffer) ((p.taking response).collector.kept r.buffer) r.number
      (s.granted outcome r) := by
  have named : response.buffer ≠ .absent := by
    obtain ⟨n, number, -⟩ := knows
    rw [buffer, number]
    intro absent
    cases absent
  have settled := kept_taking reliable request (buffer ▸ isOpen) named
  rw [buffer, stands isOpen] at settled
  exact settled

private theorem advance_send (stretch : Stretch outcome s t rs) (numbered : t.Numbered) {buffer client : Ident}
    {due : List Job} (jobs : t.registry.due = .send buffer client :: due) :
    Stretch outcome s ((t.withDue due).doing (.send buffer client)) (rs ++ [t.nextRequest buffer client]) := by
  have agreed : ∀ r a, Job.deliver r a ∈ due → a = (outcome r).answer :=
    fun r a member => stretch.agreed r a (by rw [jobs]; exact List.mem_cons_of_mem _ member)
  have knows := numbered.due buffer client (by rw [jobs]; exact List.mem_cons_self)
  have pending : t.pending = t.registry.inFlight ++ due.filterMap Job.answered? := by
    unfold Session.pending
    rw [jobs]
    rfl
  -- Where a request cannot be sent, the session is that in which it was sent and its empty response came at once.
  have sent : Stretch outcome s ((t.withDue due).numbering.launching (t.nextRequest buffer client))
      (rs ++ [t.nextRequest buffer client]) := by
    have steady : Steady outcome t ((t.withDue due).numbering.launching (t.nextRequest buffer client)) :=
      ⟨rfl, rfl, stretch.reliable, agreed⟩
    refine stretch.more steady rfl ?_ ?_
    · intro r member
      obtain rfl := List.mem_singleton.1 member
      exact knows
    · intro r
      rw [pending]
      unfold Session.pending launching
      simp only [List.mem_append]
      tauto
  rw [doing]
  split
  · exact sent
  next unable =>
    have steady : Steady outcome ((t.withDue due).numbering.launching (t.nextRequest buffer client))
        ((t.withDue due).numbering.taking (t.nextRequest buffer client).unanswered) :=
      ⟨rfl, rfl, stretch.reliable, agreed⟩
    refine discarding (sent.taken steady (List.mem_append_right _ (List.mem_singleton_self _)) ?_ ?_ ?_ ?_ ?_) _
    · intro q member
      rcases List.mem_append.1 member with flying | due
      · exact List.mem_append_left _ (List.mem_append_left _ flying)
      · exact List.mem_append_right _ due
    · intro q member
      rcases List.mem_append.1 member with flying | due
      · rcases List.mem_append.1 flying with before | last
        · exact Or.inr (List.mem_append_left _ before)
        · exact Or.inl (List.mem_singleton.1 last)
      · exact Or.inr (List.mem_append_right _ due)
    · intro n newest same
      obtain ⟨below, -⟩ := numbered.newest buffer n newest
      change (t.registry.nextNumber : Int) = n at same
      omega
    · intro b other
      exact Collector.kept_receive_of_ne _ _ _ other
    · intro isOpen
      refine own_taking (p := (t.withDue due).numbering) knows stretch.reliable rfl rfl ?_ isOpen
      intro there
      refine (granted_of_unsupported ?_).symm
      rw [← stretch.supports]
      exact supports_of_unable there unable

private theorem advance_deliver (stretch : Stretch outcome s t rs) (numbered : t.Numbered) {r : Request} {a : Answer}
    {due : List Job} (jobs : t.registry.due = .deliver r a :: due) :
    Stretch outcome s ((t.withDue due).doing (.deliver r a)) rs := by
  have agreed : ∀ r a, Job.deliver r a ∈ due → a = (outcome r).answer :=
    fun r a member => stretch.agreed r a (by rw [jobs]; exact List.mem_cons_of_mem _ member)
  obtain rfl := stretch.agreed r a (by rw [jobs]; exact List.mem_cons_self)
  obtain ⟨response, made, buffer, request, stands⟩ := @response_outcome outcome r
  have pending : t.pending = t.registry.inFlight ++ r :: due.filterMap Job.answered? := by
    unfold Session.pending
    rw [jobs]
    rfl
  have waiting : r ∈ t.pending := by
    rw [pending]
    exact List.mem_append_right _ List.mem_cons_self
  have done : (t.withDue due).doing (.deliver r (outcome r).answer) =
      ((t.withDue due).taking response).discarding r := by
    rw [doing, made]
  have steady : Steady outcome t ((t.withDue due).taking response) := ⟨rfl, rfl, stretch.reliable, agreed⟩
  rw [done]
  refine discarding (stretch.taken steady (stretch.pending r waiting) ?_ ?_ ?_ ?_ ?_) r
  · intro q member
    rw [pending]
    rcases List.mem_append.1 member with flying | due
    · exact List.mem_append_left _ flying
    · exact List.mem_append_right _ (List.mem_cons_of_mem r due)
  · intro q member
    rw [pending] at member
    rcases List.mem_append.1 member with flying | either
    · exact Or.inr (List.mem_append_left _ flying)
    · rcases List.mem_cons.1 either with rfl | due
      · exact Or.inl rfl
      · exact Or.inr (List.mem_append_right _ due)
  · intro n newest
    exact (numbered.newest r.buffer n newest).2 r waiting rfl
  · intro b other
    exact Collector.kept_receive_of_ne _ _ _ (buffer ▸ other)
  · intro isOpen
    exact own_taking (p := t.withDue due) (numbered.pending r waiting) stretch.reliable buffer request
      (fun _ => stands s (t.withDue due) stretch.supports) isOpen

private theorem same (stretch : Stretch outcome s t rs) : Stretch outcome s t (rs ++ []) := by
  rwa [List.append_nil]

private theorem after (coherent : s.Coherent) (there : t.Coherent) (numbered : t.Numbered)
    (stretch : Stretch outcome s t rs) {step : Step} (quiet : Quiet outcome t step) :
    Stretch outcome s (step.after t) (rs ++ (t.request? step).toList) := by
  cases step with
  | deed d =>
    rw [after_deed]
    exact (effect coherent there stretch d).same
  | advance =>
    rw [after_advance]
    split
    next empty =>
      rw [request?, empty]
      exact stretch.same
    next job due jobs =>
      rw [request?, jobs]
      cases job with
      | send buffer client => exact stretch.advance_send numbered jobs
      | deliver r a => exact (stretch.advance_deliver numbered jobs).same
  | respond index answer =>
    rw [after_respond]
    split
    next => exact stretch.same
    next r found =>
      have agreed : ∀ q a, Job.deliver q a ∈ (t.answering index r answer).registry.due → a = (outcome q).answer := by
        intro q a member
        rcases List.mem_append.1 member with before | last
        · exact stretch.agreed q a before
        · cases List.mem_singleton.1 last
          exact quiet r found
      have steady : Steady outcome t (t.answering index r answer) := ⟨rfl, rfl, stretch.reliable, agreed⟩
      refine stretch.more steady rfl ?_ ?_
      · intro q member
        cases member
      · intro q
        rw [(pending_answering found answer).mem_iff]
        exact (or_iff_left List.not_mem_nil).symm
  | _ => exact quiet.elim

private theorem run (coherent : s.Coherent) (there : t.Coherent) (numbered : t.Numbered)
    (stretch : Stretch outcome s t rs) {steps : List Step} (quiet : t.Along (Quiet outcome) steps) :
    Stretch outcome s (t.run steps) (rs ++ t.requests steps) := by
  induction steps generalizing t rs with
  | nil => exact (List.append_nil rs).symm ▸ stretch
  | cons step steps ih =>
    have first := after coherent there numbered stretch quiet.1
    have later := ih (there.after step) (Numbered.after there numbered (own_of_quiet quiet.1)) first quiet.2
    rw [List.append_assoc] at later
    exact later

end Stretch

section Compare

variable {s t u : Session} {rs : List Request}

private theorem reached (one : Stretch outcome s t rs) (numbered : u.Numbered)
    (pending : ∀ r, r ∈ t.pending → r ∈ u.pending) {r : Request} (member : r ∈ rs)
    (isOpen : t.editor.isOpen r.buffer = true) (kept : u.collector.kept r.buffer = s.granting outcome r) :
    ∃ n, t.collector.applied.get? r.buffer = some n ∧ r.number ≤ n := by
  rcases one.dealt r member isOpen with waiting | found
  · have newest : u.collector.applied.get? r.buffer = some (r.number : Int) := congrArg Collector.Kept.newest kept
    exact ((numbered.newest r.buffer r.number newest).2 r (pending r waiting) rfl rfl).elim
  · exact found

/-- Two stretches over the same requests that have dealt with the same of them keep the same. -/
private theorem Stretch.kept_eq (one : Stretch outcome s t rs) (other : Stretch outcome s u rs) (left : t.Numbered)
    (right : u.Numbered) (editor : t.editor = u.editor) (pending : ∀ r, r ∈ t.pending ↔ r ∈ u.pending)
    (distinct : (rs.map Request.number).Nodup) {b : Ident} (isOpen : t.editor.isOpen b = true) :
    t.collector.kept b = u.collector.kept b := by
  have isOpen' : u.editor.isOpen b = true := editor ▸ isOpen
  rcases one.kept b isOpen with same | ⟨q, asked, rfl, above, kept⟩
  · rcases other.kept b isOpen' with same' | ⟨r, asked', rfl, above', kept'⟩
    · exact same.trans same'.symm
    · obtain ⟨n, newest, bound⟩ := reached one right (fun r => (pending r).1) asked' isOpen kept'
      have before := above' n ((congrArg Collector.Kept.newest same).symm.trans newest)
      omega
  · obtain ⟨n, newest, bound⟩ := reached other left (fun r => (pending r).2) asked isOpen' kept
    rcases other.kept q.buffer isOpen' with same' | ⟨r, asked', buffer, above', kept'⟩
    · have before := above n ((congrArg Collector.Kept.newest same').symm.trans newest)
      omega
    · -- Either request was dealt with in the stretch that keeps the other, so neither is newer.
      rw [← buffer] at isOpen kept' kept newest ⊢
      obtain ⟨m, newest', bound'⟩ := reached one right (fun r => (pending r).1) asked' isOpen kept'
      have first : some n = some (r.number : Int) := newest.symm.trans (congrArg Collector.Kept.newest kept')
      have second : some m = some (q.number : Int) := newest'.symm.trans (congrArg Collector.Kept.newest kept)
      have equal : q.number = r.number := by
        obtain rfl := Option.some.inj first
        obtain rfl := Option.some.inj second
        omega
      rw [kept, kept', List.inj_on_of_nodup_map distinct asked asked' equal]

end Compare

private theorem Numbered.nodup_requests {s : Session} (numbered : s.Numbered) {steps : List Step}
    (quiet : s.Along (Quiet outcome) steps) : ((s.pending ++ s.requests steps).map Request.number).Nodup := by
  obtain ⟨ps, made, -⟩ := requests_run (Alike.refl s) quiet
  rw [List.map_append, List.nodup_append]
  refine ⟨numbered.distinct, ?_, ?_⟩
  · rw [made, List.Nodup, List.pairwise_map]
    exact (pairwise_numberedFrom _ ps).imp Nat.ne_of_lt
  · intro m pending n new same
    obtain ⟨q, waiting, rfl⟩ := List.mem_map.1 pending
    obtain ⟨r, member, rfl⟩ := List.mem_map.1 new
    rw [made] at member
    have below := numbered.below q waiting
    have above := (mem_numberedFrom member).1
    omega

private theorem pending_of_done {s : Session} (done : s.registry.due = []) : s.pending = s.registry.inFlight := by
  unfold pending
  rw [done]
  exact List.append_nil _

private theorem Stretch.kept_newest {s t : Session} {rs : List Request} (stretch : Stretch outcome s t rs)
    (distinct : (rs.map Request.number).Nodup) {r : Request} (made : r ∈ rs) (dealt : r ∉ t.pending)
    (isOpen : t.editor.isOpen r.buffer = true)
    (newer : ∀ n, s.collector.applied.get? r.buffer = some n → n < r.number)
    (newest : ∀ q ∈ rs, q.buffer = r.buffer → q.number ≤ r.number) :
    t.collector.kept r.buffer = s.granting outcome r := by
  rcases stretch.dealt r made isOpen with waiting | ⟨n, applied, bound⟩
  · exact (dealt waiting).elim
  rcases stretch.kept r.buffer isOpen with same | ⟨q, asked, buffer, -, kept⟩
  · have before := newer n ((congrArg Collector.Kept.newest same).symm.trans applied)
    omega
  · have last : some n = some (q.number : Int) := applied.symm.trans (congrArg Collector.Kept.newest kept)
    obtain rfl := Option.some.inj last
    have most := newest q asked buffer
    have equal : q.number = r.number := by omega
    rw [kept, List.inj_on_of_nodup_map distinct asked made equal]

private theorem Numbered.newer_requests {s : Session} (numbered : s.Numbered) {steps : List Step}
    (quiet : s.Along (Quiet outcome) steps) {r : Request} (made : r ∈ s.requests steps) :
    (∀ b n, s.collector.applied.get? b = some n → n < r.number) ∧ ∀ q ∈ s.pending, q.number ≤ r.number := by
  obtain ⟨ps, all, -⟩ := requests_run (Alike.refl s) quiet
  have above : s.registry.nextNumber ≤ r.number := (mem_numberedFrom (all ▸ made)).1
  constructor
  · intro b n applied
    have below := (numbered.newest b n applied).1
    omega
  · intro q waiting
    exact Nat.le_trans (Nat.le_of_lt (numbered.below q waiting)) above

/-- Completion order does not matter. Let a session of its own requests go on in two ways, with the clients as they
are, the same deeds, and an outcome for each request. If nothing is due in the end, and the same requests are in
flight, then the same is kept, and the same requests were made, numbered in order, of clients that give hints. The
newest request made for a buffer, once it is not in flight any more, is the one whose outcome is kept; and so is the
newest of those that were pending, unless a newer one had been answered before. -/
theorem completion_order {settings : Settings Plugin.Callable} {files : Files} {area : Terminal.EchoArea}
    {parses : Bool} {before : List Step} (own : ∀ step ∈ before, step.Own) {s : Session}
    (reached : (Session.new settings files area parses).run before = s) (reliable : Message.Reliable s.outlet)
    (agreed : ∀ r a, Job.deliver r a ∈ s.registry.due → a = (outcome r).answer) {first second : List Step}
    (quiet : s.Along (Quiet outcome) first) (quiet' : s.Along (Quiet outcome) second)
    (deeds : first.filterMap Step.deed? = second.filterMap Step.deed?) (done : (s.run first).registry.due = [])
    (done' : (s.run second).registry.due = [])
    (left : ∀ r, r ∈ (s.run first).registry.inFlight ↔ r ∈ (s.run second).registry.inFlight) :
    (∀ b, (s.run first).collector.bucket? b = (s.run second).collector.bucket? b ∧
        (s.run first).collector.applied.get? b = (s.run second).collector.applied.get? b) ∧
      s.requests first = s.requests second ∧
      (s.requests first).Pairwise (fun q r => q.number < r.number) ∧
      (s.unsent = [] → ∀ r ∈ s.requests first, s.registry.supports r.client = true) ∧
      (∀ r ∈ s.requests first, r ∉ (s.run first).registry.inFlight → (s.run first).editor.isOpen r.buffer = true →
        (∀ q ∈ s.requests first, q.buffer = r.buffer → q.number ≤ r.number) →
        (s.run first).collector.bucket? r.buffer = some (s.granted outcome r) ∧
          (s.run first).collector.applied.get? r.buffer = some (r.number : Int)) ∧
      ∀ r ∈ s.pending, r ∉ (s.run first).registry.inFlight → (s.run first).editor.isOpen r.buffer = true →
        (∀ n, s.collector.applied.get? r.buffer = some n → n < r.number) →
        (∀ q ∈ s.pending ++ s.requests first, q.buffer = r.buffer → q.number ≤ r.number) →
        (s.run first).collector.bucket? r.buffer = some (s.granted outcome r) ∧
          (s.run first).collector.applied.get? r.buffer = some (r.number : Int) := by
  have start := Coherent.new settings files area parses
  have coherent : s.Coherent := reached ▸ start.run before
  have numbered : s.Numbered := reached ▸ Numbered.run start (Numbered.new settings files area parses) own
  have made := requests_eq quiet done quiet' done' deeds
  have initial : Stretch outcome s s s.pending := Stretch.refl numbered reliable agreed
  have one := Stretch.run coherent coherent numbered initial quiet
  have other := Stretch.run coherent coherent numbered initial quiet'
  rw [← made] at other
  have distinct := numbered.nodup_requests quiet
  refine ⟨?_, made, ?_, fun none r member => supports_of_requests quiet done none member, ?_, ?_⟩
  · intro b
    have same : (s.run first).collector.kept b = (s.run second).collector.kept b := by
      have editor := editor_eq quiet quiet' deeds
      by_cases isOpen : (s.run first).editor.isOpen b = true
      · refine one.kept_eq other (Numbered.run coherent numbered (own_of_along quiet))
          (Numbered.run coherent numbered (own_of_along quiet')) editor ?_ distinct isOpen
        intro r
        rw [pending_of_done done, pending_of_done done', left]
      · have closed : ¬ (s.run second).editor.isOpen b = true := editor ▸ isOpen
        rw [(coherent.run first).kept_closed isOpen, (coherent.run second).kept_closed closed]
    exact ⟨congrArg Collector.Kept.bucket same, congrArg Collector.Kept.newest same⟩
  · rw [requests_of_done quiet done]
    exact pairwise_numberedFrom _ _
  · intro r member dealt isOpen newest
    obtain ⟨newer, above⟩ := numbered.newer_requests quiet member
    have kept := one.kept_newest distinct (List.mem_append_right _ member) (pending_of_done done ▸ dealt) isOpen
      (newer r.buffer) fun q made buffer =>
        (List.mem_append.1 made).elim (above q) fun new => newest q new buffer
    exact ⟨congrArg Collector.Kept.bucket kept, congrArg Collector.Kept.newest kept⟩
  · intro r member dealt isOpen newer newest
    have kept := one.kept_newest distinct (List.mem_append_left _ member) (pending_of_done done ▸ dealt) isOpen newer
      newest
    exact ⟨congrArg Collector.Kept.bucket kept, congrArg Collector.Kept.newest kept⟩

/-- A file is opened, and attached to a client that gives hints. -/
private def attaching : List Step :=
  [.register (.number 1) ⟨true, .ok (), .ok ()⟩, .deed (.openBuffer ⟨.here, ["a.toy"]⟩ "x = 1" "toy"),
    .deed (.attach (.number 1) (.number 1))]

private def ready : Session := (Session.new .standard ⟨[], [], []⟩ (.new [] none) false).run attaching

/-- The first request is refused, and any other is answered by a type. -/
private def replies (r : Request) : Client.Outcome :=
  if r.number = 1 then .error ⟨.base, "slow"⟩
  else .ok (some typed)

/-- The requests that come of asking twice. -/
private def twice : Request × Request := (⟨1, .number 1, .number 1⟩, ⟨2, .number 1, .number 1⟩)

/-- Hints are asked for twice, and the answers come in the order of the requests. -/
private def inTurn : List Step :=
  [.deed (.enable (.number 1)), .deed (.enable (.number 1)), .advance, .advance,
    .respond 0 (replies twice.1).answer, .advance, .respond 0 (replies twice.2).answer, .advance]

/-- The answers come the other way round. -/
private def crossed : List Step :=
  [.deed (.enable (.number 1)), .deed (.enable (.number 1)), .advance, .advance,
    .respond 1 (replies twice.2).answer, .advance, .respond 0 (replies twice.1).answer, .advance]

theorem completion_order_crossed :
    ready.Along (Quiet replies) inTurn ∧ ready.Along (Quiet replies) crossed ∧
      (∀ b, (ready.run inTurn).collector.bucket? b = (ready.run crossed).collector.bucket? b) ∧
      (ready.run inTurn).collector.bucket? (.number 1) = some (ready.granted replies twice.2) := by
  have reliable : Message.Reliable ready.outlet := by
    intro pass member text kind
    obtain rfl := Option.mem_some.1 member
    exact ⟨_, rfl⟩
  have agreed : ∀ r a, Job.deliver r a ∈ ready.registry.due → a = (replies r).answer := by
    intro r a member
    cases member
  have quiet : ready.Along (Quiet replies) inTurn := by
    refine ⟨trivial, trivial, trivial, trivial, ?_, trivial, ?_, trivial, trivial⟩
    all_goals
      intro r found
      cases found
      rfl
  have quiet' : ready.Along (Quiet replies) crossed := by
    refine ⟨trivial, trivial, trivial, trivial, ?_, trivial, ?_, trivial, trivial⟩
    all_goals
      intro r found
      cases found
      rfl
  have own : ∀ step ∈ attaching, step.Own := by
    intro step member
    simp only [attaching, List.mem_cons, List.not_mem_nil, or_false] at member
    rcases member with rfl | rfl | rfl <;> trivial
  obtain ⟨same, -, -, -, last, -⟩ :=
    completion_order (s := ready) own rfl reliable agreed quiet quiet' rfl rfl rfl fun r => Iff.rfl
  refine ⟨quiet, quiet', fun b => (same b).1, ?_⟩
  have made : ready.requests inTurn = [twice.1, twice.2] := rfl
  rw [made] at last
  refine (last twice.2 (List.mem_cons_of_mem _ List.mem_cons_self) List.not_mem_nil rfl ?_).1
  intro q member _
  simp only [List.mem_cons, List.not_mem_nil, or_false] at member
  rcases member with rfl | rfl <;> decide

end Session

end HintLine
