import HintLine.Proofs.Collector.Receive
import Mathlib.Data.List.DropRight

/-!
What a collector keeps of a buffer, told from the history of that buffer. Of a history only the deliveries count
that came since the buffer was last forgotten: the number kept is the greatest of their requests, and the bucket
kept is that of the last one that was accepted.
-/

set_option autoImplicit false

namespace HintLine.Collector

/-- A response, with the surroundings it is delivered in. -/
structure Delivery where
  surroundings : Surroundings
  response : Response

def Delivery.bucket (d : Delivery) : Bucket := standsFor d.surroundings d.response

/-- What happens to a collector. Nothing is said of the surroundings between two deliveries: buffers open and
close there, and clients come and go and change what they give. -/
inductive Event where
  | delivered (d : Delivery)
  | forgotten (buffer : Ident)

namespace Event

def buffer : Event → Ident
  | delivered d => d.response.buffer
  | forgotten buffer => buffer

/-- Whether nothing is kept of the buffer of an event: it is forgotten, or was not open at a delivery. -/
def forgets : Event → Bool
  | delivered d => !d.surroundings.isOpen d.response.buffer
  | forgotten _ => true

def delivery? : Event → Option Delivery
  | delivered d => some d
  | forgotten _ => none

/-- Whether messages get through when an event happens. -/
def Reliable : Event → Prop
  | delivered d => Message.Reliable d.surroundings.outlet
  | forgotten _ => True

def after (c : Collector) : Event → Collector
  | delivered d => (receive d.surroundings d.response c).state
  | forgotten buffer => c.forget buffer

end Event

def run (history : List Event) : Collector := history.foldl Event.after new

def about (buffer : Ident) (history : List Event) : List Event := history.filter fun e => e.buffer = buffer

/-- The deliveries for a buffer since it was last forgotten. -/
def since (buffer : Ident) (history : List Event) : List Delivery :=
  ((about buffer history).rtakeWhile fun e => !e.forgets).filterMap Event.delivery?

/-- The numbers of the requests that deliveries answer, as far as they have numbers. -/
def requests (ds : List Delivery) : List Int := ds.filterMap fun d => d.response.request

/-- A delivery is accepted after others if it has no number, or none of theirs is greater. -/
def Accepted (before : List Delivery) (d : Delivery) : Prop :=
  ∀ n, d.response.request = some n → ∀ m ∈ requests before, m ≤ n

/-- The last of some deliveries that is accepted after those before it. -/
def LastAccepted (ds : List Delivery) (d : Delivery) : Prop :=
  ∃ before after, ds = before ++ d :: after ∧ Accepted before d ∧
    ∀ between e rest, after = between ++ e :: rest → ¬ Accepted (before ++ d :: between) e

namespace Kept

/-- Whether an answer to a request comes after one to a later request. -/
def isOutdated (k : Kept) (request : Option Int) : Bool :=
  match request, k.newest with
  | some n, some last => n < last
  | _, _ => false

def after (k : Kept) : Event → Kept
  | .delivered d =>
    if !d.surroundings.isOpen d.response.buffer then nothing
    else if k.isOutdated d.response.request then k
    else ⟨some d.bucket, d.response.request.or k.newest⟩
  | .forgotten _ => nothing

end Kept

private theorem kept_after_of_ne (c : Collector) (e : Event) {b : Ident} (other : b ≠ e.buffer) :
    (e.after c).kept b = c.kept b := by
  cases e with
  | forgotten i => exact kept_forget_of_ne c other
  | delivered d => exact kept_receive_of_ne d.surroundings d.response c other

private theorem kept_receive (c : Collector) {d : Delivery} (reliable : Message.Reliable d.surroundings.outlet)
    (named : d.response.buffer ≠ .absent) :
    (receive d.surroundings d.response c).state.kept d.response.buffer =
      (c.kept d.response.buffer).after (.delivered d) := by
  have same : (c.kept d.response.buffer).isOutdated d.response.request = c.isOutdated d.response := rfl
  have outcome := received d.surroundings d.response c
  generalize (receive d.surroundings d.response c).state = after at outcome ⊢
  unfold Kept.after
  simp only [same]
  cases outcome with
  | anonymous unnamed => exact (named unnamed).elim
  | gone _ isGone => simp [kept_forget_self, isGone]
  | outdated _ isOpen late => simp [isOpen, late]
  | unreported _ _ _ _ unreliable => exact (unreliable reliable).elim
  | stored _ isOpen inTime => simp [kept_store_self, isOpen, inTime, Delivery.bucket]

private theorem kept_after_self (c : Collector) {e : Event} (reliable : e.Reliable) (named : e.buffer ≠ .absent) :
    (e.after c).kept e.buffer = (c.kept e.buffer).after e := by
  cases e with
  | forgotten i => exact kept_forget_self c i
  | delivered d => exact kept_receive c reliable named

private theorem kept_run {history : List Event} (reliable : ∀ e ∈ history, e.Reliable) {b : Ident}
    (named : b ≠ .absent) : (run history).kept b = (about b history).foldl Kept.after .nothing := by
  induction history using List.reverseRecOn with
  | nil => rfl
  | append_singleton history e ih =>
    have before := ih fun e' member => reliable e' (List.mem_append_left _ member)
    have last : (run (history ++ [e])).kept b = (e.after (run history)).kept b := by
      simp [run]
    rw [last]
    by_cases own : e.buffer = b
    · have event := kept_after_self (run history) (reliable e (by simp)) (own ▸ named)
      rw [own] at event
      have told : about b (history ++ [e]) = about b history ++ [e] := by simp [about, own]
      rw [event, told, List.foldl_append, before]
      rfl
    · have told : about b (history ++ [e]) = about b history := by simp [about, own]
      rw [kept_after_of_ne _ _ (Ne.symm own), told, before]

private theorem requests_append_singleton (ds : List Delivery) (d : Delivery) :
    requests (ds ++ [d]) = requests ds ++ d.response.request.toList := by
  cases numbered : d.response.request <;> simp [requests, numbered]

/-- What is kept of a buffer as it should be after some deliveries. -/
private structure Reflects (ds : List Delivery) (k : Kept) : Prop where
  newest : k.newest = (requests ds).max?
  bucket : ds = [] ∧ k.bucket = none ∨ ∃ d, LastAccepted ds d ∧ k.bucket = some d.bucket

private theorem accepted_iff {ds : List Delivery} {k : Kept} (newest : k.newest = (requests ds).max?)
    (d : Delivery) : Accepted ds d ↔ k.isOutdated d.response.request = false := by
  unfold Accepted Kept.isOutdated
  rw [newest]
  cases d.response.request with
  | none => simp
  | some n =>
    cases greatest : (requests ds).max? with
    | none => simp [List.max?_eq_none_iff.1 greatest]
    | some last =>
      obtain ⟨member, bound⟩ := List.max?_eq_some_iff.1 greatest
      simp only [Option.some.injEq, forall_eq', decide_eq_false_iff_not, Int.not_lt]
      constructor
      · intro above
        exact above last member
      · intro above m found
        exact Int.le_trans (bound m found) above

private theorem LastAccepted.of_accepted {ds : List Delivery} {d : Delivery} (accepted : Accepted ds d) :
    LastAccepted (ds ++ [d]) d := by
  refine ⟨ds, [], rfl, accepted, ?_⟩
  intro between e rest split
  simp at split

private theorem LastAccepted.append_singleton {ds : List Delivery} {d e : Delivery} (last : LastAccepted ds d)
    (refused : ¬ Accepted ds e) : LastAccepted (ds ++ [e]) d := by
  obtain ⟨before, after, split, accepted, later⟩ := last
  refine ⟨before, after ++ [e], by simp [split], accepted, ?_⟩
  intro between x rest cut
  induction rest using List.reverseRecOn with
  | nil =>
    obtain ⟨rfl, same⟩ := List.append_inj' cut rfl
    obtain rfl : e = x := by simpa using same
    rwa [split] at refused
  | append_singleton rest y _ =>
    have cut' : after ++ [e] = (between ++ x :: rest) ++ [y] := by simp [cut]
    exact later between x rest (List.append_inj' cut' rfl).1

private theorem newest_append_singleton {ds : List Delivery} {k : Kept} (newest : k.newest = (requests ds).max?)
    {d : Delivery} (accepted : Accepted ds d) :
    d.response.request.or k.newest = (requests (ds ++ [d])).max? := by
  rw [requests_append_singleton]
  cases numbered : d.response.request with
  | none => simpa using newest
  | some n =>
    symm
    rw [Option.some_or, List.max?_eq_some_iff]
    refine ⟨by simp, ?_⟩
    intro m member
    rcases List.mem_append.1 member with earlier | own
    · exact accepted n numbered m earlier
    · exact Int.le_of_eq (by simpa using own)

private theorem newest_of_refused {ds : List Delivery} {k : Kept} (newest : k.newest = (requests ds).max?)
    {d : Delivery} (refused : k.isOutdated d.response.request = true) :
    k.newest = (requests (ds ++ [d])).max? := by
  rw [requests_append_singleton]
  cases numbered : d.response.request with
  | none => simpa using newest
  | some n =>
    cases last : k.newest with
    | none => simp [Kept.isOutdated, numbered, last] at refused
    | some m =>
      obtain ⟨member, bound⟩ := List.max?_eq_some_iff.1 (newest.symm.trans last)
      have above : n < m := by simpa [Kept.isOutdated, numbered, last] using refused
      symm
      rw [List.max?_eq_some_iff]
      refine ⟨List.mem_append_left _ member, ?_⟩
      intro i found
      rcases List.mem_append.1 found with earlier | own
      · exact bound i earlier
      · obtain rfl : i = n := by simpa using own
        exact Int.le_of_lt above

private theorem Reflects.append_singleton {ds : List Delivery} {k : Kept} (reflects : Reflects ds k) {d : Delivery}
    (isOpen : d.surroundings.isOpen d.response.buffer = true) :
    Reflects (ds ++ [d]) (k.after (.delivered d)) := by
  have verdict := accepted_iff reflects.newest d
  unfold Kept.after
  cases late : k.isOutdated d.response.request with
  | false =>
    have accepted := verdict.2 late
    simp only [isOpen, late, Bool.not_true, Bool.false_eq_true, if_false]
    exact ⟨newest_append_singleton reflects.newest accepted, Or.inr ⟨d, .of_accepted accepted, rfl⟩⟩
  | true =>
    have refused : ¬ Accepted ds d := fun accepted => by simp [verdict.1 accepted] at late
    simp only [isOpen, late, Bool.not_true, Bool.false_eq_true, if_false, if_true]
    refine ⟨newest_of_refused reflects.newest late, ?_⟩
    rcases reflects.bucket with ⟨rfl, -⟩ | ⟨x, last, stored⟩
    · exact (refused fun n _ m member => by simp [requests] at member).elim
    · exact Or.inr ⟨x, last.append_singleton refused, stored⟩

private theorem reflects_fold (history : List Event) :
    Reflects ((history.rtakeWhile fun e => !e.forgets).filterMap Event.delivery?)
      (history.foldl Kept.after .nothing) := by
  induction history using List.reverseRecOn with
  | nil => exact ⟨rfl, Or.inl ⟨rfl, rfl⟩⟩
  | append_singleton history e ih =>
    rw [List.foldl_append, List.rtakeWhile_concat]
    cases e with
    | forgotten i => exact ⟨rfl, Or.inl ⟨rfl, rfl⟩⟩
    | delivered d =>
      cases isOpen : d.surroundings.isOpen d.response.buffer with
      | false =>
        simp only [Event.forgets, isOpen, Bool.not_false, Bool.not_true, Bool.false_eq_true, if_false,
          List.foldl_cons, List.foldl_nil, Kept.after, if_true]
        exact ⟨rfl, Or.inl ⟨rfl, rfl⟩⟩
      | true =>
        have step := ih.append_singleton isOpen
        simpa [Event.forgets, isOpen, Event.delivery?] using step

/-- A delivery is outdated just if it is not accepted after those since its buffer was last forgotten. -/
theorem isOutdated_run {history : List Event} (reliable : ∀ e ∈ history, e.Reliable) {d : Delivery}
    (named : d.response.buffer ≠ .absent) :
    (run history).isOutdated d.response = false ↔ Accepted (since d.response.buffer history) d := by
  have reflects := reflects_fold (about d.response.buffer history)
  rw [← kept_run reliable named] at reflects
  exact (accepted_iff reflects.newest d).symm

/-- The law of histories, for a collector whose messages get through. What is kept of a buffer depends on the
events about it alone. The number kept is the greatest that came since the buffer was last forgotten; there is
no bucket if nothing came since, and otherwise it is that of the last delivery accepted. -/
theorem kept_of_history (history : List Event) (reliable : ∀ e ∈ history, e.Reliable) (b : Ident)
    (named : b ≠ .absent) :
    (run history).kept b = (run (about b history)).kept b ∧
      (run history).applied.get? b = (requests (since b history)).max? ∧
      (since b history = [] → (run history).bucket? b = none) ∧
      (since b history ≠ [] →
        ∃ d, LastAccepted (since b history) d ∧ (run history).bucket? b = some d.bucket) := by
  have law := kept_run reliable named
  have twice : about b (about b history) = about b history := by simp [about]
  have alone := kept_run (fun (e : Event) (member : e ∈ about b history) =>
    reliable e (List.mem_of_mem_filter member)) named
  have reflects := reflects_fold (about b history)
  rw [← law] at reflects
  refine ⟨by rw [law, alone, twice], reflects.newest, ?_, ?_⟩
  · intro empty
    rcases reflects.bucket with ⟨-, none⟩ | ⟨d, ⟨before, after, split, -⟩, -⟩
    · exact none
    · change since b history = _ at split
      simp [empty] at split
  · intro nonempty
    rcases reflects.bucket with ⟨empty, -⟩ | found
    · exact (nonempty empty).elim
    · exact found

/-- Surroundings in which everything is open and nobody is told anything. -/
private def quiet : Surroundings := ⟨fun _ => true, fun _ => true, false, none⟩

/-- The second request of a buffer is answered before the first. -/
private def overtaken : List Event :=
  [.delivered ⟨quiet, ⟨.number 1, .number 1, some 2, none, none⟩⟩,
    .delivered ⟨quiet, ⟨.number 1, .number 1, some 1, some "late", none⟩⟩]

theorem kept_of_history_overtaken :
    (∀ e ∈ overtaken, e.Reliable) ∧ Ident.number 1 ≠ .absent ∧
      (run overtaken).applied.get? (.number 1) = some 2 ∧
      ∃ d, LastAccepted (since (.number 1) overtaken) d ∧ (run overtaken).bucket? (.number 1) = some d.bucket := by
  have reliable : ∀ e ∈ overtaken, e.Reliable := by
    intro e member
    simp only [overtaken, List.mem_cons, List.not_mem_nil, or_false] at member
    rcases member with rfl | rfl <;> exact Message.reliable_none
  have named : Ident.number 1 ≠ .absent := by decide
  obtain ⟨-, newest, -, bucket⟩ := kept_of_history overtaken reliable (.number 1) named
  refine ⟨reliable, named, newest.trans rfl, bucket ?_⟩
  intro empty
  have length : (since (.number 1) overtaken).length = 2 := rfl
  simp [empty] at length

end HintLine.Collector
