import HintLine.Proofs.Session.Schedule
import Mathlib.Data.List.Count
import Mathlib.Data.List.Induction

/-!
Turns: the steps of a session, and servers that come to end calls in another way. What a session holds after some
turns goes back to one of them: a client stands in the list of a buffer because it was attached to it, a request is
due because hints were enabled, and a client is there because it was registered.
-/

set_option autoImplicit false

namespace HintLine

open HintLine.Client (Connection Job Registry Server)

/-- The registry when calls on a client have come to end in another way. -/
def Client.Registry.reform (reg : Registry) (client : Ident) (didOpen shutdown : Except Fault Unit) : Registry :=
  match reg.clients.get? client with
  | some c => reg.register client { c with didOpen, shutdown }
  | none => reg

namespace Session

/-- A step of a session, or a server that ends calls in another way from then on. -/
inductive Turn where
  | step (step : Step)
  | reform (client : Ident) (didOpen shutdown : Except Fault Unit)

namespace Turn

def act : Turn → Act Session Unit
  | step taken => taken.act
  | reform client didOpen shutdown => onRegistry (Act.modify (·.reform client didOpen shutdown))

def after (s : Session) (turn : Turn) : Session := (turn.act s).state

/-- A turn that attaches a client to a buffer. -/
def Attaches (s : Session) (buffer client : Ident) (turn : Turn) : Prop :=
  turn = step (.deed (.attach buffer client)) ∧ (attach buffer client s).outcome = .ok ()

/-- The requests that a turn asks for: their buffers and clients. -/
def asks (s : Session) : Turn → List (Ident × Ident)
  | step (.deed d) => d.asks s
  | _ => []

/-- The client that a turn registers, if it does that. -/
def registered? (s : Session) : Turn → Option Ident
  | step (.register client _) => some client
  | step (.start client server command root) =>
    (start client server command root s).outcome.toOption.map fun _ => client
  | _ => none

end Turn

def play (s : Session) (turns : List Turn) : Session := turns.foldl Turn.after s

/-- The clients that some turns register, one after the other. -/
def registrations : Session → List Turn → List Ident
  | _, [] => []
  | s, turn :: turns => (turn.registered? s).toList ++ registrations (turn.after s) turns

def Throughout (p : Session → Turn → Prop) : Session → List Turn → Prop
  | _, [] => True
  | s, turn :: turns => p s turn ∧ Throughout p (turn.after s) turns

theorem play_append (s : Session) (first second : List Turn) :
    s.play (first ++ second) = (s.play first).play second := List.foldl_append

private theorem play_concat (s : Session) (turns : List Turn) (turn : Turn) :
    s.play (turns ++ [turn]) = turn.after (s.play turns) := by
  rw [play_append]
  rfl

theorem registrations_append (s : Session) (first second : List Turn) :
    s.registrations (first ++ second) = s.registrations first ++ (s.play first).registrations second := by
  induction first generalizing s with
  | nil => rfl
  | cons turn first ih =>
    rw [List.cons_append, registrations, ih, registrations, List.append_assoc]
    rfl

theorem brought_about {p : Session → Prop} {q : Session → Turn → Prop}
    (step : ∀ s turn, p (turn.after s) → p s ∨ q s turn) {s : Session} (initially : ¬ p s) {turns : List Turn}
    (atLast : p (s.play turns)) :
    ∃ first turn later, turns = first ++ turn :: later ∧ q (s.play first) turn := by
  induction turns using List.reverseRecOn with
  | nil => exact (initially atLast).elim
  | append_singleton turns turn ih =>
    rw [play_concat] at atLast
    rcases step _ turn atLast with before | now
    · obtain ⟨first, cause, later, rfl, caused⟩ := ih before
      exact ⟨first, cause, later ++ [turn], by simp, caused⟩
    · exact ⟨turns, turn, [], rfl, now⟩

theorem outcome_attach (buffer client : Ident) (s : Session) :
    (attach buffer client s).outcome = .ok () ↔ s.canAttach buffer client = true := by
  rcases attach_cases buffer client s with ⟨able, -, b, -, ran⟩ | ⟨unable, e, t, ran⟩
  · rw [ran]
    exact ⟨fun _ => able, fun _ => rfl⟩
  · rw [ran, unable]
    constructor
    · intro succeeded
      cases succeeded
    · intro able
      cases able

/-- Two sessions, the second of which has no more clients than the first, and none of them more often in the list of
a buffer. -/
structure Fewer (s t : Session) : Prop where
  clients : ∀ c, t.registry.clients.contains c = true → s.registry.clients.contains c = true
  attached : ∀ b c, (t.registry.attachedTo b).count c ≤ (s.registry.attachedTo b).count c

namespace Fewer

private theorem refl (s : Session) : s.Fewer s := ⟨fun _ => id, fun _ _ => Nat.le_refl _⟩

private theorem trans (s t u : Session) (first : s.Fewer t) (second : t.Fewer u) : s.Fewer u :=
  ⟨fun c there => first.clients c (second.clients c there),
    fun b c => Nat.le_trans (second.attached b c) (first.attached b c)⟩

private theorem of_same {s t : Session} (clients : t.registry.clients = s.registry.clients)
    (attached : t.registry.attached = s.registry.attached) : s.Fewer t := by
  refine ⟨?_, ?_⟩
  · intro c there
    rwa [clients] at there
  · intro b c
    have lists : t.registry.attachedTo b = s.registry.attachedTo b := by
      unfold Registry.attachedTo
      rw [attached]
    exact Nat.le_of_eq (congrArg (List.count c) lists)

end Fewer

theorem attachedTo_unregister (reg : Registry) (client b : Ident) :
    (reg.unregister client).attachedTo b = (reg.attachedTo b).erase client := by
  show (((reg.attached.map (·.erase client)).get? b).getD []) = ((reg.attached.get? b).getD []).erase client
  rw [Table.get?_map]
  cases reg.attached.get? b <;> rfl

private theorem contains_register (reg : Registry) (client : Ident) (c : Connection) (i : Ident) :
    (reg.register client c).clients.contains i = (decide (i = client) || reg.clients.contains i) := by
  show ((reg.clients.insert client c).get? i).isSome = (decide (i = client) || (reg.clients.get? i).isSome)
  rw [Table.get?_insert]
  split
  next own => simp [own]
  next other => simp [other]

private theorem fewer_unregister (client : Ident) : (unregister client).Moves Fewer := by
  intro s
  refine ⟨?_, ?_⟩
  · intro c there
    change ((s.registry.clients.erase client).get? c).isSome = true at there
    rw [Table.get?_erase] at there
    split at there
    · cases there
    · exact there
  · intro b c
    show ((s.registry.unregister client).attachedTo b).count c ≤ _
    rw [attachedTo_unregister]
    exact (List.erase_sublist).count_le c

private theorem fewer_stop : stop.Moves Fewer := moves_stopping Fewer.refl Fewer.trans fewer_unregister

theorem start_cases (client : Ident) (server : Server) (command : String) (root : Path) (s : Session) :
    ∃ files,
      (server.handshake = .ok () ∧ (start client server command root s).outcome = .ok () ∧
        (start client server command root s).state =
          { s with files, registry := s.registry.register client server.connection }) ∨
      (∃ e, (start client server command root s).outcome = .error e) ∧
        (start client server command root s).state = { s with files } := by
  have same : (onFiles (Client.launch server command root) s).state =
      { s with files := (Client.launch server command root s.files).state } := rfl
  refine ⟨(Client.launch server command root s.files).state, ?_⟩
  unfold start
  rcases launched : onFiles (Client.launch server command root) s with ⟨e | u, after, trace⟩
  · rw [launched] at same
    rw [Act.bind_apply_error launched]
    exact Or.inr ⟨⟨e, rfl⟩, same⟩
  · rw [launched] at same
    obtain rfl : after = _ := same
    rw [Act.bind_apply_ok launched]
    dsimp only
    rw [Act.bind_apply_ok (Act.get_apply _)]
    dsimp only
    rw [Act.bind_apply_ok (Act.emit_apply _ _)]
    dsimp only
    cases greeted : server.handshake with
    | error e => exact Or.inr ⟨⟨e, rfl⟩, rfl⟩
    | ok u => exact Or.inl ⟨rfl, rfl, rfl⟩

private theorem fewer_reform (client : Ident) (didOpen shutdown : Except Fault Unit) (s : Session) :
    s.Fewer ((Turn.reform client didOpen shutdown).after s) := by
  have registry : ((Turn.reform client didOpen shutdown).after s).registry =
      s.registry.reform client didOpen shutdown := rfl
  unfold Registry.reform at registry
  cases there : s.registry.clients.get? client with
  | none =>
    rw [there] at registry
    exact .of_same (by rw [registry]) (by rw [registry])
  | some c =>
    rw [there] at registry
    refine ⟨?_, ?_⟩
    · intro i found
      rw [registry, contains_register, Bool.or_eq_true, decide_eq_true_eq] at found
      rcases found with rfl | before
      · exact Option.isSome_iff_exists.2 ⟨c, there⟩
      · exact before
    · intro b i
      rw [registry]
      exact Nat.le_refl _

private theorem effect_cases (s : Session) (d : Deed) :
    s.Fewer (d.effect s) ∨
      ∃ b c, d = .attach b c ∧ s.canAttach b c = true ∧ (d.effect s).registry = s.registry.link b c := by
  cases d with
  | attach b c =>
    rw [Deed.effect]
    split
    next able => exact Or.inr ⟨b, c, rfl, able, rfl⟩
    next => exact Or.inl (Fewer.refl s)
  | closeBuffer | setCurrent | attached =>
    left
    rw [Deed.effect]
    split <;> exact .of_same rfl rfl
  | openBuffer | setCursor | parse | enable | hold | silence => exact Or.inl (.of_same rfl rfl)

private theorem after_cases (s : Session) (turn : Turn) :
    s.Fewer (turn.after s) ∨
    (∃ b c, turn.Attaches s b c ∧ (turn.after s).registry = s.registry.link b c) ∨
    ∃ client c, turn.registered? s = some client ∧ (turn.after s).registry = s.registry.register client c := by
  cases turn with
  | reform client didOpen shutdown => exact Or.inl (fewer_reform client didOpen shutdown s)
  | step taken =>
    cases taken with
    | deed d =>
      have left : (Turn.step (.deed d)).after s = d.effect s := d.state_act s
      rw [left]
      rcases effect_cases s d with fewer | ⟨b, c, rfl, able, registry⟩
      · exact Or.inl fewer
      · exact Or.inr (Or.inl ⟨b, c, ⟨rfl, (outcome_attach b c s).2 able⟩, registry⟩)
    | register client c => exact Or.inr (Or.inr ⟨client, c, rfl, rfl⟩)
    | unregister client => exact Or.inl (fewer_unregister client s)
    | start client server command root =>
      obtain ⟨files, ⟨-, done, left⟩ | ⟨-, left⟩⟩ := start_cases client server command root s
      · refine Or.inr (Or.inr ⟨client, server.connection, ?_, congrArg registry left⟩)
        rw [Turn.registered?, done]
        rfl
      · exact Or.inl (.of_same (congrArg (·.registry.clients) left) (congrArg (·.registry.attached) left))
    | stop => exact Or.inl (fewer_stop s)
    | advance =>
      left
      have left : (Turn.step .advance).after s = _ := after_advance s
      rw [left]
      split
      next => exact Fewer.refl s
      next job due _ =>
        have alike := Alike.doing (s.withDue due) job
        exact .of_same alike.clients alike.attached
    | respond index answer =>
      left
      have left : (Turn.step (.respond index answer)).after s = _ := after_respond index answer s
      rw [left]
      split
      next => exact Fewer.refl s
      next => exact .of_same rfl rfl
    | dispatch method r =>
      left
      have left : (Turn.step (.dispatch method r)).after s = _ := after_dispatch method r s
      rw [left]
      split
      next => exact .of_same rfl rfl
      next => exact Fewer.refl s

theorem contains_after {s : Session} {turn : Turn} {client : Ident}
    (there : (turn.after s).registry.clients.contains client = true) :
    s.registry.clients.contains client = true ∨ turn.registered? s = some client := by
  rcases after_cases s turn with fewer | ⟨b, c, -, registry⟩ | ⟨i, c, registers, registry⟩
  · exact Or.inl (fewer.clients client there)
  · rw [registry] at there
    exact Or.inl there
  · rw [registry, contains_register, Bool.or_eq_true, decide_eq_true_eq] at there
    rcases there with rfl | before
    · exact Or.inr registers
    · exact Or.inl before

theorem attachedTo_link (reg : Registry) (buffer client b : Ident) :
    (reg.link buffer client).attachedTo b =
      if b = buffer then reg.attachedTo b ++ [client] else reg.attachedTo b := by
  unfold Registry.link Registry.attachedTo
  rw [Table.get?_insert]
  split
  next own => rw [own]; rfl
  next => rfl

theorem count_attachedTo_after (s : Session) (turn : Turn) (b client : Ident) :
    ((turn.after s).registry.attachedTo b).count client ≤ (s.registry.attachedTo b).count client ∨
      turn.Attaches s b client ∧
        ((turn.after s).registry.attachedTo b).count client = (s.registry.attachedTo b).count client + 1 := by
  rcases after_cases s turn with fewer | ⟨i, c, attaches, registry⟩ | ⟨i, c, -, registry⟩
  · exact Or.inl (fewer.attached b client)
  · rw [registry, attachedTo_link]
    split
    next own =>
      rw [List.count_append, List.count_singleton]
      by_cases same : c = client
      · right
        rw [same] at attaches
        exact ⟨own ▸ attaches, by simp [same]⟩
      · left
        simp [same]
    next => exact Or.inl (Nat.le_refl _)
  · rw [registry]
    exact Or.inl (Nat.le_refl _)

private theorem sending_injective : Function.Injective sending := by
  intro p q same
  injection same with buffer client
  exact Prod.ext buffer client

theorem count_due_after (s : Session) (turn : Turn) (p : Ident × Ident) :
    (turn.after s).registry.due.count (sending p) ≤ s.registry.due.count (sending p) + (turn.asks s).count p := by
  cases turn with
  | reform client didOpen shutdown =>
    have due : ((Turn.reform client didOpen shutdown).after s).registry.due = s.registry.due := by
      show (s.registry.reform client didOpen shutdown).due = _
      unfold Registry.reform
      split <;> rfl
    rw [due]
    exact Nat.le_add_right _ _
  | step taken =>
    cases taken with
    | deed d =>
      have left : (Turn.step (.deed d)).after s = d.effect s := d.state_act s
      rw [left, due_effect, List.count_append, List.count_map_of_injective _ _ sending_injective]
      exact Nat.le_refl _
    | register client c => exact Nat.le_add_right _ _
    | unregister client => exact Nat.le_add_right _ _
    | start client server command root =>
      have due := (moves_start client server command root s).due
      exact Nat.le_add_right_of_le (Nat.le_of_eq (congrArg (List.count (sending p)) due))
    | stop =>
      have due := (moves_stop s).due
      exact Nat.le_add_right_of_le (Nat.le_of_eq (congrArg (List.count (sending p)) due))
    | advance =>
      have left : (Turn.step .advance).after s = _ := after_advance s
      rw [left]
      split
      next => exact Nat.le_add_right _ _
      next job due jobs =>
        rw [due_doing, jobs]
        exact Nat.le_add_right_of_le List.count_le_count_cons
    | respond index answer =>
      have left : (Turn.step (.respond index answer)).after s = _ := after_respond index answer s
      rw [left]
      split
      next => exact Nat.le_add_right _ _
      next r _ =>
        have other : Job.deliver r answer ≠ sending p := by
          intro same
          cases same
        show (s.registry.due ++ [Job.deliver r answer]).count (sending p) ≤ _
        rw [List.count_append, List.count_singleton, if_neg (by simpa using other)]
        exact Nat.le_add_right _ _
    | dispatch method r =>
      have left : (Turn.step (.dispatch method r)).after s = _ := after_dispatch method r s
      rw [left]
      split <;> exact Nat.le_add_right _ _

theorem mem_attachedTo_of_asks {s : Session} {turn : Turn} {b client : Ident} (asks : (b, client) ∈ turn.asks s) :
    client ∈ s.registry.attachedTo b := by
  have enabled {buffer : Ident} (asks : (b, client) ∈ (Deed.enable buffer).asks s) :
      client ∈ s.registry.attachedTo b := by
    obtain ⟨c, chosen, same⟩ := List.mem_map.1 asks
    obtain ⟨rfl, rfl⟩ := Prod.mk.inj same
    exact (List.mem_filter.1 chosen).1
  cases turn with
  | reform => cases asks
  | step taken =>
    cases taken with
    | deed d =>
      change (b, client) ∈ d.asks s at asks
      cases d with
      | enable buffer => exact enabled asks
      | attached buffer c =>
        rw [Deed.asks] at asks
        split at asks
        · exact enabled asks
        · cases asks
      | _ => cases asks
    | _ => cases asks

end Session

end HintLine
