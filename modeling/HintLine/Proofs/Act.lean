import HintLine.Act

/-!
Properties of actions that are put together from those of their parts: that the state only moves in a given way,
and that something is found while everything stays as it is.
-/

set_option autoImplicit false

namespace HintLine

namespace Trace

/-- A trace that only tells what was looked up and logged. -/
def Silent (t : Trace) : Prop := ∀ e ∈ t, (∃ r, e = .log r) ∨ ∃ b row column, e = .lookup b row column

theorem silent_nil : Silent [] := by
  intro e member
  cases member

private theorem Silent.append {t u : Trace} (first : t.Silent) (second : u.Silent) : Silent (t ++ u) := by
  intro e member
  rcases List.mem_append.1 member with left | right
  · exact first e left
  · exact second e right

end Trace

namespace Act

variable {σ α β : Type}

/-- However the action ends, the state has moved as the relation allows. -/
def Moves (R : σ → σ → Prop) (x : Act σ α) : Prop := ∀ s, R s (x s).state

section Moves

variable {R : σ → σ → Prop} (refl : ∀ s, R s s)

include refl

theorem moves_pure (a : α) : (pure a : Act σ α).Moves R := fun s => refl s

theorem moves_fail (e : Fault) : (fail e : Act σ α).Moves R := fun s => refl s

theorem moves_get : (get : Act σ σ).Moves R := fun s => refl s

theorem moves_emit (e : Effect) : (emit e : Act σ Unit).Moves R := fun s => refl s

theorem moves_log (level : Log.Level) (message : String) : (log level message : Act σ Unit).Moves R :=
  fun s => refl s

theorem moves_ofExcept (o : Except Fault α) : (ofExcept o : Act σ α).Moves R := fun s => refl s

theorem moves_ofResult {ε : Type} (fault : ε → Fault) (o : Except ε α) :
    (ofResult fault o : Act σ α).Moves R := by
  cases o with
  | ok a => exact moves_pure refl a
  | error e => exact moves_fail refl (fault e)

end Moves

section Sequence

variable {R : σ → σ → Prop} (trans : ∀ s t u, R s t → R t u → R s u)

include trans

theorem Moves.bind {x : Act σ α} {f : α → Act σ β} (first : x.Moves R) (second : ∀ a, (f a).Moves R) :
    (x >>= f).Moves R := by
  intro s
  have moved := first s
  rcases ran : x s with ⟨e | a, s₁, t⟩
  · rw [bind_apply_error ran]
    rwa [ran] at moved
  · rw [bind_apply_ok ran]
    rw [ran] at moved
    exact trans s s₁ _ moved (second a s₁)

theorem moves_forEach (refl : ∀ s, R s s) {f : α → Act σ Unit} (each : ∀ a, (f a).Moves R) (l : List α) :
    (forEach l f).Moves R := by
  induction l with
  | nil => exact moves_pure refl ()
  | cons a l ih => exact Moves.bind trans (each a) fun _ => ih

end Sequence

theorem bind_succeeded {x : Act σ α} {f : α → Act σ β} {s : σ} {b : β} (done : ((x >>= f) s).outcome = .ok b) :
    ∃ a, (x s).outcome = .ok a ∧ (f a (x s).state).outcome = .ok b ∧
      (x >>= f) s = ⟨.ok b, (f a (x s).state).state, (x s).trace ++ (f a (x s).state).trace⟩ := by
  rcases ran : x s with ⟨e | a, t, trace⟩
  · rw [bind_apply_error ran] at done
    cases done
  · rw [bind_apply_ok ran] at done ⊢
    dsimp only at done ⊢
    exact ⟨a, rfl, done, by rw [done]⟩

theorem ensuring_apply_ok {x : Act σ α} {closing : Act σ Unit} {s : σ}
    (closed : (closing (x s).state).outcome = .ok ()) :
    x.ensuring closing s =
      ⟨(x s).outcome, (closing (x s).state).state, (x s).trace ++ (closing (x s).state).trace⟩ := by
  unfold ensuring
  dsimp only
  rw [closed]

theorem ensuring_apply_error {x : Act σ α} {closing : Act σ Unit} {s : σ} {e : Fault}
    (failed : (closing (x s).state).outcome = .error e) :
    x.ensuring closing s =
      ⟨.error e, (closing (x s).state).state, (x s).trace ++ (closing (x s).state).trace⟩ := by
  unfold ensuring
  dsimp only
  rw [failed]

/-- However the action ends, each of its effects has a property. -/
def Tells (p : Effect → Prop) (x : Act σ α) : Prop := ∀ s, ∀ e ∈ (x s).trace, p e

section Tells

variable {p : Effect → Prop}

theorem tells_of_silent {x : Act σ α} (silent : ∀ s, (x s).trace = []) : x.Tells p := by
  intro s e member
  rw [silent] at member
  cases member

theorem tells_pure (a : α) : (pure a : Act σ α).Tells p := tells_of_silent fun _ => rfl

theorem tells_fail (e : Fault) : (fail e : Act σ α).Tells p := tells_of_silent fun _ => rfl

theorem tells_get : (get : Act σ σ).Tells p := tells_of_silent fun _ => rfl

theorem tells_modify (f : σ → σ) : (modify f).Tells p := tells_of_silent fun _ => rfl

theorem tells_ofExcept (o : Except Fault α) : (ofExcept o : Act σ α).Tells p := tells_of_silent fun _ => rfl

theorem tells_ofResult {ε : Type} (fault : ε → Fault) (o : Except ε α) : (ofResult fault o : Act σ α).Tells p := by
  cases o with
  | ok a => exact tells_pure a
  | error e => exact tells_fail (fault e)

theorem tells_emits {t : Trace} (holds : ∀ e ∈ t, p e) : (emits t : Act σ Unit).Tells p := fun _ => holds

theorem tells_emit {e : Effect} (holds : p e) : (emit e : Act σ Unit).Tells p :=
  tells_emits fun _ member => List.mem_singleton.1 member ▸ holds

theorem tells_log (level : Log.Level) (message : String) (holds : p (.log ⟨level, message⟩)) :
    (log level message : Act σ Unit).Tells p := tells_emit holds

theorem Tells.bind {x : Act σ α} {f : α → Act σ β} (first : x.Tells p) (second : ∀ a, (f a).Tells p) :
    (x >>= f).Tells p := by
  intro s e member
  have before := first s e
  rcases ran : x s with ⟨fault | a, s₁, t⟩
  · rw [bind_apply_error ran] at member
    rw [ran] at before
    exact before member
  · rw [bind_apply_ok ran] at member
    rw [ran] at before
    rcases List.mem_append.1 member with early | late
    · exact before early
    · exact second a s₁ e late

theorem Tells.zoom {τ : Type} {x : Act τ α} (tells : x.Tells p) (part : σ → τ) (put : τ → σ → σ) :
    (Act.zoom part put x).Tells p := fun s => tells (part s)

theorem tells_forEach {f : α → Act σ Unit} (each : ∀ a, (f a).Tells p) (l : List α) : (forEach l f).Tells p := by
  induction l with
  | nil => exact tells_pure ()
  | cons a l ih => exact (each a).bind fun _ => ih

theorem trace_ensuring (x : Act σ α) (closing : Act σ Unit) (s : σ) :
    (x.ensuring closing s).trace = (x s).trace ++ (closing (x s).state).trace := by
  cases closed : (closing (x s).state).outcome with
  | ok u => rw [ensuring_apply_ok closed]
  | error e => rw [ensuring_apply_error closed]

theorem Tells.ensuring {x : Act σ α} {closing : Act σ Unit} (first : x.Tells p) (last : closing.Tells p) :
    (x.ensuring closing).Tells p := by
  intro s e member
  rw [trace_ensuring] at member
  rcases List.mem_append.1 member with early | late
  · exact first s e early
  · exact last _ e late

theorem trace_bind_of_tells (x : Act σ α) {f : α → Act σ β} (second : ∀ a, (f a).Tells p) (s : σ) :
    ∃ t, ((x >>= f) s).trace = (x s).trace ++ t ∧ ∀ e ∈ t, p e := by
  rcases ran : x s with ⟨fault | a, s₁, t⟩
  · rw [bind_apply_error ran]
    exact ⟨[], (List.append_nil t).symm, nofun⟩
  · rw [bind_apply_ok ran]
    exact ⟨(f a s₁).trace, rfl, second a s₁⟩

end Tells

/-- The action finds a value with a property and leaves everything as it is, apart from logs and look-ups. -/
def Finds (x : Act σ α) (p : α → Prop) : Prop := ∀ s, ∃ a t, x s = ⟨.ok a, s, t⟩ ∧ p a ∧ t.Silent

theorem finds_pure {a : α} {p : α → Prop} (holds : p a) : (pure a : Act σ α).Finds p := by
  intro s
  exact ⟨a, [], rfl, holds, Trace.silent_nil⟩

theorem finds_log (level : Log.Level) (message : String) :
    (log level message : Act σ Unit).Finds fun _ => True := by
  intro s
  refine ⟨(), _, rfl, trivial, ?_⟩
  intro e member
  exact Or.inl ⟨_, List.mem_singleton.1 member⟩

theorem finds_lookup (b : Ident) (row column : Int) :
    (emit (.lookup b row column) : Act σ Unit).Finds fun _ => True := by
  intro s
  refine ⟨(), _, rfl, trivial, ?_⟩
  intro e member
  exact Or.inr ⟨b, row, column, List.mem_singleton.1 member⟩

theorem Finds.bind {x : Act σ α} {f : α → Act σ β} {p : α → Prop} {q : β → Prop} (first : x.Finds p)
    (second : ∀ a, p a → (f a).Finds q) : (x >>= f).Finds q := by
  intro s
  obtain ⟨a, t, ran, holds, silent⟩ := first s
  obtain ⟨b, u, went, reached, quiet⟩ := second a holds s
  refine ⟨b, t ++ u, ?_, reached, silent.append quiet⟩
  rw [bind_apply_ok ran, went]

theorem Finds.tells {x : Act σ α} {p : α → Prop} (finds : x.Finds p) :
    x.Tells fun e => (∃ r, e = .log r) ∨ ∃ b row column, e = .lookup b row column := by
  intro s
  obtain ⟨a, t, ran, -, silent⟩ := finds s
  rw [ran]
  exact silent

theorem Finds.moves {x : Act σ α} {p : α → Prop} (finds : x.Finds p) : x.Moves Eq := by
  intro s
  obtain ⟨a, t, ran, -, -⟩ := finds s
  rw [ran]

end Act

end HintLine
