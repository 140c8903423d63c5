import HintLine.Effect
import HintLine.Fault

/-!
Actions on a state. An action ends in a value or in a fault; either way it leaves a state and the trace of what
it did, so that nothing done before a fault is lost. Running one action after the other joins their traces.
-/

set_option autoImplicit false

namespace HintLine

/-- How an action ends. -/
structure Run (σ α : Type) where
  outcome : Except Fault α
  state : σ
  trace : Trace

def Act (σ α : Type) : Type := σ → Run σ α

namespace Act

variable {σ τ α β : Type}

/-- Does nothing and ends in a value. -/
protected def pure (a : α) : Act σ α := fun s => ⟨.ok a, s, []⟩

/-- Runs an action, and on its value another; a fault ends both. -/
protected def bind (x : Act σ α) (f : α → Act σ β) : Act σ β := fun s =>
  let r := x s
  match r.outcome with
  | .ok a =>
    let q := f a r.state
    ⟨q.outcome, q.state, r.trace ++ q.trace⟩
  | .error e => ⟨.error e, r.state, r.trace⟩

instance : Monad (Act σ) where
  pure := Act.pure
  bind := Act.bind

def fail (e : Fault) : Act σ α := fun s => ⟨.error e, s, []⟩

def get : Act σ σ := fun s => ⟨.ok s, s, []⟩

def gets (f : σ → α) : Act σ α := fun s => ⟨.ok (f s), s, []⟩

def modify (f : σ → σ) : Act σ Unit := fun s => ⟨.ok (), f s, []⟩

def emit (e : Effect) : Act σ Unit := fun s => ⟨.ok (), s, [e]⟩

def emits (t : Trace) : Act σ Unit := fun s => ⟨.ok (), s, t⟩

def log (level : Log.Level) (message : String) : Act σ Unit := emit (.log ⟨level, message⟩)

/-- Runs an action and ends in its outcome, never in a fault. -/
def attempt (x : Act σ α) : Act σ (Except Fault α) := fun s =>
  let r := x s
  ⟨.ok r.outcome, r.state, r.trace⟩

def ofExcept (o : Except Fault α) : Act σ α := fun s => ⟨o, s, []⟩

def ofResult {ε : Type} (fault : ε → Fault) : Except ε α → Act σ α
  | .ok a => Act.pure a
  | .error e => fail (fault e)

/-- Runs an action, then a closing action in any case. A fault of the closing action hides that of the first. -/
def ensuring (x : Act σ α) (closing : Act σ Unit) : Act σ α := fun s =>
  let r := x s
  let c := closing r.state
  match c.outcome with
  | .ok _ => ⟨r.outcome, c.state, r.trace ++ c.trace⟩
  | .error e => ⟨.error e, c.state, r.trace ++ c.trace⟩

def zoom (part : σ → τ) (put : τ → σ → σ) (x : Act τ α) : Act σ α := fun s =>
  let r := x (part s)
  ⟨r.outcome, put r.state s, r.trace⟩

/-- Runs an action for each element of a list, in order. -/
def forEach (l : List α) (f : α → Act σ Unit) : Act σ Unit :=
  match l with
  | [] => Act.pure ()
  | a :: rest => Act.bind (f a) fun _ => forEach rest f

@[simp] theorem pure_apply (a : α) (s : σ) : (pure a : Act σ α) s = ⟨.ok a, s, []⟩ := rfl

@[simp] theorem fail_apply (e : Fault) (s : σ) : (fail e : Act σ α) s = ⟨.error e, s, []⟩ := rfl

@[simp] theorem get_apply (s : σ) : (get : Act σ σ) s = ⟨.ok s, s, []⟩ := rfl

@[simp] theorem modify_apply (f : σ → σ) (s : σ) : modify f s = ⟨.ok (), f s, []⟩ := rfl

@[simp] theorem ofExcept_apply (o : Except Fault α) (s : σ) : ofExcept o s = ⟨o, s, []⟩ := rfl

@[simp] theorem ofResult_ok_apply {ε : Type} (fault : ε → Fault) (a : α) (s : σ) :
    ofResult fault (.ok a) s = ⟨.ok a, s, []⟩ := rfl

@[simp] theorem emit_apply (e : Effect) (s : σ) : emit e s = ⟨.ok (), s, [e]⟩ := rfl

@[simp] theorem log_apply (l : Log.Level) (m : String) (s : σ) :
    log l m s = ⟨.ok (), s, [.log ⟨l, m⟩]⟩ := rfl

theorem bind_apply_ok {x : Act σ α} {f : α → Act σ β} {s s₁ : σ} {a : α} {t : Trace}
    (h : x s = ⟨.ok a, s₁, t⟩) :
    (x >>= f) s = ⟨(f a s₁).outcome, (f a s₁).state, t ++ (f a s₁).trace⟩ := by
  show Act.bind x f s = _
  simp [Act.bind, h]

theorem bind_apply_error {x : Act σ α} {f : α → Act σ β} {s s₁ : σ} {e : Fault} {t : Trace}
    (h : x s = ⟨.error e, s₁, t⟩) : (x >>= f) s = ⟨.error e, s₁, t⟩ := by
  show Act.bind x f s = _
  simp [Act.bind, h]

@[simp] theorem attempt_apply (x : Act σ α) (s : σ) :
    attempt x s = ⟨.ok (x s).outcome, (x s).state, (x s).trace⟩ := rfl

@[simp] theorem zoom_apply (part : σ → τ) (put : τ → σ → σ) (x : Act τ α) (s : σ) :
    zoom part put x s = ⟨(x (part s)).outcome, put (x (part s)).state s, (x (part s)).trace⟩ := rfl

theorem id_map_eq (x : Act σ α) : id <$> x = x := by
  funext s
  show Act.bind x (fun a => Act.pure a) s = x s
  rcases h : x s with ⟨_ | a, s₁, t₁⟩ <;> simp [Act.bind, Act.pure, h]

theorem pure_bind_eq (a : α) (f : α → Act σ β) : pure a >>= f = f a := by
  funext s
  show Act.bind (Act.pure a) f s = f a s
  simp [Act.bind, Act.pure]

theorem bind_assoc_eq {γ : Type} (x : Act σ α) (f : α → Act σ β) (g : β → Act σ γ) :
    x >>= f >>= g = x >>= fun a => f a >>= g := by
  funext s
  show Act.bind (Act.bind x f) g s = Act.bind x (fun a => Act.bind (f a) g) s
  rcases h : x s with ⟨_ | a, s₁, t₁⟩
  · simp [Act.bind, h]
  · rcases h₂ : f a s₁ with ⟨_ | b, s₂, t₂⟩ <;> simp [Act.bind, h, h₂]

instance : LawfulMonad (Act σ) :=
  LawfulMonad.mk' (Act σ) id_map_eq pure_bind_eq bind_assoc_eq

end Act

end HintLine
