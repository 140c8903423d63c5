import HintLine.Proofs.Session.Turns

/-!
Clients in the lists of buffers. A client that is unregistered loses one place in each list. As attaching it twice
gives it two, it is forgotten for good only if it stood at most once in each list; and a client that is in no list is
asked for nothing until it is attached again.
-/

set_option autoImplicit false

namespace HintLine.Session

variable {client : Ident}

/-- A client is attached to a buffer only while it is not in the list of that buffer. -/
def AttachesOnce (client : Ident) (s : Session) (turn : Turn) : Prop :=
  ∀ b, turn.Attaches s b client → client ∉ s.registry.attachedTo b

private theorem count_unregister (client : Ident) (s : Session) (b : Ident) :
    (((Turn.step (.unregister client)).after s).registry.attachedTo b).count client =
      (s.registry.attachedTo b).count client - 1 := by
  have left : ((Turn.step (.unregister client)).after s).registry = s.registry.unregister client := rfl
  rw [left, attachedTo_unregister, List.count_erase_self]

/-- A client that is attached only where it is not in the list yet stands in no list twice. -/
private theorem count_attachedTo_play_le_one {s : Session} (initially : ∀ b, (s.registry.attachedTo b).count client ≤ 1)
    {turns : List Turn} (once : s.Throughout (AttachesOnce client) turns) (b : Ident) :
    ((s.play turns).registry.attachedTo b).count client ≤ 1 := by
  induction turns generalizing s with
  | nil => exact initially b
  | cons turn turns ih =>
    refine ih ?_ once.2
    intro i
    rcases count_attachedTo_after s turn i client with fewer | ⟨attaches, more⟩
    · exact Nat.le_trans fewer (initially i)
    · have absent := List.count_eq_zero.2 (once.1 i attaches)
      omega

private theorem not_mem_attachedTo_play {s : Session} {b : Ident} (none : client ∉ s.registry.attachedTo b)
    {turns : List Turn} (never : s.Throughout (fun u turn => ¬ turn.Attaches u b client) turns) :
    client ∉ (s.play turns).registry.attachedTo b := by
  induction turns generalizing s with
  | nil => exact none
  | cons turn turns ih =>
    refine ih ?_ never.2
    rw [← List.count_eq_zero] at none ⊢
    rcases count_attachedTo_after s turn b client with fewer | ⟨attaches, -⟩
    · omega
    · exact (never.1 attaches).elim

/-- What becomes of a client that is unregistered. It is in no list from then on just if it stood at most once in each,
as it does if it was attached only to buffers that it was not attached to; and it is asked for the hints of a buffer
whose list it is not in only after it was attached to that buffer again. -/
theorem forgotten_until_attached {start : Session} (idle : start.registry = .new) (turns : List Turn)
    (client : Ident) :
    let s := start.play turns
    let t := (Turn.step (.unregister client)).after s
    ((∀ b, client ∉ t.registry.attachedTo b) ↔ ∀ b, (s.registry.attachedTo b).count client ≤ 1) ∧
      (start.Throughout (AttachesOnce client) turns → ∀ b, client ∉ t.registry.attachedTo b) ∧
      ∀ b, client ∉ t.registry.attachedTo b → ∀ (later : List Turn) (turn : Turn),
        t.Throughout (fun u turn => ¬ turn.Attaches u b client) later →
        (turn.after (t.play later)).registry.due.count (.send b client) ≤
          (t.play later).registry.due.count (.send b client) := by
  intro s t
  have forgotten : (∀ b, client ∉ t.registry.attachedTo b) ↔ ∀ b, (s.registry.attachedTo b).count client ≤ 1 := by
    refine forall_congr' fun b => ?_
    rw [← List.count_eq_zero, count_unregister]
    omega
  refine ⟨forgotten, ?_, ?_⟩
  · intro once
    refine forgotten.2 (count_attachedTo_play_le_one ?_ once)
    intro b
    rw [idle]
    exact Nat.zero_le 1
  · intro b none later turn never
    have absent := not_mem_attachedTo_play none never
    have unasked : (b, client) ∉ turn.asks (t.play later) := fun asks => absent (mem_attachedTo_of_asks asks)
    have bound := count_due_after (t.play later) turn (b, client)
    rwa [List.count_eq_zero.2 unasked] at bound

private def fresh : Session := .new .standard ⟨[], [], []⟩ (.new [] none) false

/-- A client is registered and a file opened. -/
private def greeting : List Turn :=
  [.step (.register (.number 1) ⟨true, .ok (), .ok ()⟩),
    .step (.deed (.openBuffer ⟨.here, ["a.toy"]⟩ "x = 1" "toy"))]

private def joining : Turn := .step (.deed (.attach (.number 1) (.number 1)))

private def leaving : Turn := .step (.unregister (.number 1))

private def returning : Turn := .step (.register (.number 1) ⟨true, .ok (), .ok ()⟩)

private def wishing : Turn := .step (.deed (.enable (.number 1)))

theorem forgotten_until_attached_returning :
    let t := leaving.after (fresh.play (greeting ++ [joining]))
    fresh.registry = .new ∧ fresh.Throughout (AttachesOnce (.number 1)) (greeting ++ [joining]) ∧
      (∀ b, Ident.number 1 ∉ t.registry.attachedTo b) ∧
      t.Throughout (fun u turn => ¬ turn.Attaches u (.number 1) (.number 1)) [returning] ∧
      ((wishing.after (t.play [returning])).registry.due).count (.send (.number 1) (.number 1)) ≤
        (t.play [returning]).registry.due.count (.send (.number 1) (.number 1)) := by
  intro t
  obtain ⟨-, forgotten, unasked⟩ :=
    forgotten_until_attached (show fresh.registry = .new from rfl) (greeting ++ [joining]) (.number 1)
  have once : fresh.Throughout (AttachesOnce (.number 1)) (greeting ++ [joining]) := by
    refine ⟨?_, ?_, ?_, trivial⟩
    · rintro b ⟨same, -⟩
      cases same
    · rintro b ⟨same, -⟩
      cases same
    · rintro b -
      exact List.not_mem_nil
  have never : t.Throughout (fun u turn => ¬ turn.Attaches u (.number 1) (.number 1)) [returning] := by
    refine ⟨?_, trivial⟩
    rintro ⟨same, -⟩
    cases same
  have none := forgotten once
  exact ⟨rfl, once, none, never, unasked _ (none _) [returning] wishing never⟩

/-- A client that was attached twice is still in the list when it was unregistered, and whoever is registered under
its name is asked for hints without being attached. -/
theorem remembered_of_attached_twice :
    let t := leaving.after (fresh.play (greeting ++ [joining, joining]))
    Ident.number 1 ∈ t.registry.attachedTo (.number 1) ∧
      Client.Job.send (.number 1) (.number 1) ∉ (t.play [returning]).registry.due ∧
      Client.Job.send (.number 1) (.number 1) ∈ (t.play [returning, wishing]).registry.due := by
  decide

end HintLine.Session
