import HintLine.Proofs.Act

/-!
Two runs side by side. Actions go in step if from related states they end in the same way and in related states again,
and do the same as far as one looks; what is not looked at may differ. Actions that are put together from parts in step
are in step. An action that neither asks for the state nor changes it is steady.
-/

set_option autoImplicit false

namespace HintLine

variable {σ τ α β : Type}

/-- Two runs that end in the same way, in related states, with the same effects among those that are looked at. -/
structure Run.InStep (sees : Effect → Bool) (R : σ → σ → Prop) (r q : Run σ α) : Prop where
  outcome : r.outcome = q.outcome
  state : R r.state q.state
  trace : r.trace.filter sees = q.trace.filter sees

namespace Act

/-- Two actions that go in step from related states. -/
def InStep (sees : Effect → Bool) (R : σ → σ → Prop) (x y : Act σ α) : Prop :=
  ∀ s t, R s t → (x s).InStep sees R (y t)

section InStep

variable {sees : Effect → Bool} {R : σ → σ → Prop}

theorem inStep_pure (a : α) : InStep sees R (pure a : Act σ α) (pure a) := fun _ _ related => ⟨rfl, related, rfl⟩

theorem inStep_fail (e : Fault) : InStep sees R (fail e : Act σ α) (fail e) := fun _ _ related => ⟨rfl, related, rfl⟩

theorem inStep_emit (e : Effect) : InStep sees R (emit e : Act σ Unit) (emit e) :=
  fun _ _ related => ⟨rfl, related, rfl⟩

theorem inStep_ofExcept (o : Except Fault α) : InStep sees R (ofExcept o : Act σ α) (ofExcept o) :=
  fun _ _ related => ⟨rfl, related, rfl⟩

theorem inStep_modify {f g : σ → σ} (kept : ∀ s t, R s t → R (f s) (g t)) : InStep sees R (modify f) (modify g) :=
  fun s t related => ⟨rfl, kept s t related, rfl⟩

theorem inStep_emits {t u : Trace} (same : t.filter sees = u.filter sees) :
    InStep sees R (emits t : Act σ Unit) (emits u) := fun _ _ related => ⟨rfl, related, same⟩

theorem inStep_bind_at {x y : Act σ α} {f g : α → Act σ β} {s t : σ} (first : (x s).InStep sees R (y t))
    (second : ∀ a, (x s).outcome = .ok a → (f a (x s).state).InStep sees R (g a (y t).state)) :
    ((x >>= f) s).InStep sees R ((y >>= g) t) := by
  rcases ran : x s with ⟨o, s', u⟩
  rcases went : y t with ⟨p, t', v⟩
  rw [ran, went] at first second
  obtain rfl : o = p := first.outcome
  cases o with
  | error e =>
    rw [bind_apply_error ran, bind_apply_error went]
    exact ⟨rfl, first.state, first.trace⟩
  | ok a =>
    have after := second a rfl
    rw [bind_apply_ok ran, bind_apply_ok went]
    refine ⟨after.outcome, after.state, ?_⟩
    dsimp only at first ⊢
    rw [List.filter_append, List.filter_append, first.trace, after.trace]

theorem InStep.bind {x y : Act σ α} {f g : α → Act σ β} (first : InStep sees R x y)
    (second : ∀ a, InStep sees R (f a) (g a)) : InStep sees R (x >>= f) (y >>= g) := by
  intro s t related
  have before := first s t related
  exact inStep_bind_at before fun a _ => second a _ _ before.state

theorem inStep_get_bind {f g : σ → Act σ α} (later : ∀ s t, R s t → InStep sees R (f s) (g t)) :
    InStep sees R (get >>= f) (get >>= g) := by
  intro s t related
  have after := later s t related s t related
  rw [bind_apply_ok (get_apply s), bind_apply_ok (get_apply t)]
  exact ⟨after.outcome, after.state, after.trace⟩

theorem InStep.attempt {x y : Act σ α} (inStep : InStep sees R x y) :
    InStep sees R (Act.attempt x) (Act.attempt y) := by
  intro s t related
  have ended := inStep s t related
  exact ⟨congrArg Except.ok ended.outcome, ended.state, ended.trace⟩

theorem inStep_ensuring_at {x y : Act σ α} {closing shutting : Act σ Unit} {s t : σ} (first : (x s).InStep sees R (y t))
    (last : InStep sees R closing shutting) : ((x.ensuring closing) s).InStep sees R ((y.ensuring shutting) t) := by
  have after := last _ _ first.state
  have traces : ((x s).trace ++ (closing (x s).state).trace).filter sees =
      ((y t).trace ++ (shutting (y t).state).trace).filter sees := by
    rw [List.filter_append, List.filter_append, first.trace, after.trace]
  have outcomes := after.outcome
  cases closed : (closing (x s).state).outcome with
  | ok u =>
    rw [closed] at outcomes
    rw [ensuring_apply_ok closed, ensuring_apply_ok outcomes.symm]
    exact ⟨first.outcome, after.state, traces⟩
  | error e =>
    rw [closed] at outcomes
    rw [ensuring_apply_error closed, ensuring_apply_error outcomes.symm]
    exact ⟨rfl, after.state, traces⟩

theorem inStep_forEach {f g : α → Act σ Unit} (each : ∀ a, InStep sees R (f a) (g a)) (l : List α) :
    InStep sees R (forEach l f) (forEach l g) := by
  induction l with
  | nil => exact inStep_pure ()
  | cons a l ih => exact (each a).bind fun _ => ih

theorem inStep_refl (x : Act σ α) : InStep sees Eq x x := by
  rintro s _ rfl
  exact ⟨rfl, rfl, rfl⟩

theorem inStep_zoom {part : σ → τ} {put : τ → σ → σ} (same : ∀ s t, R s t → part s = part t)
    (kept : ∀ s t p, R s t → R (put p s) (put p t)) {x y : Act τ α} (inStep : InStep sees Eq x y) :
    InStep sees R (zoom part put x) (zoom part put y) := by
  intro s t related
  have ended := inStep (part s) (part t) (same s t related)
  rw [zoom_apply, zoom_apply]
  refine ⟨ended.outcome, ?_, ended.trace⟩
  dsimp only
  rw [ended.state]
  exact kept s t _ related

end InStep

/-- The action does the same in every state, and leaves it as it is. -/
def Steady (x : Act σ α) : Prop := ∃ o t, ∀ s, x s = ⟨o, s, t⟩

theorem steady_pure (a : α) : (pure a : Act σ α).Steady := ⟨_, _, fun _ => rfl⟩

theorem steady_fail (e : Fault) : (fail e : Act σ α).Steady := ⟨_, _, fun _ => rfl⟩

theorem steady_emit (e : Effect) : (emit e : Act σ Unit).Steady := ⟨_, _, fun _ => rfl⟩

theorem steady_log (level : Log.Level) (text : String) : (log level text : Act σ Unit).Steady := steady_emit _

theorem steady_ofExcept (o : Except Fault α) : (ofExcept o : Act σ α).Steady := ⟨_, _, fun _ => rfl⟩

theorem steady_ofResult {ε : Type} (fault : ε → Fault) (o : Except ε α) : (ofResult fault o : Act σ α).Steady := by
  cases o with
  | ok a => exact steady_pure a
  | error e => exact steady_fail (fault e)

theorem Steady.attempt {x : Act σ α} (steady : x.Steady) : (Act.attempt x).Steady := by
  obtain ⟨o, t, ran⟩ := steady
  exact ⟨.ok o, t, fun s => by rw [attempt_apply, ran]⟩

theorem Steady.bind {x : Act σ α} {f : α → Act σ β} (first : x.Steady) (second : ∀ a, (f a).Steady) :
    (x >>= f).Steady := by
  obtain ⟨o, t, ran⟩ := first
  cases o with
  | error e => exact ⟨.error e, t, fun s => bind_apply_error (ran s)⟩
  | ok a =>
    obtain ⟨p, u, went⟩ := second a
    refine ⟨p, t ++ u, fun s => ?_⟩
    rw [bind_apply_ok (ran s), went]

end Act

end HintLine
