import HintLine.Collector

/-!
What taking an answer in does to a collector. `Received` lists the five ways in which it can end, each with its
guards, and `kept` is what is kept of a single buffer; what is proved of a collector further on goes through these.
-/

set_option autoImplicit false

namespace HintLine

namespace Message

/-- A message gets through: there is no outlet, or it does not fail at the message. -/
def Passes (outlet : Option Outlet) (text : String) (kind : Kind) : Prop :=
  ∀ pass ∈ outlet, ∃ t, pass text kind = .ok t

/-- Messages get through: there is no outlet, or one that never fails. -/
def Reliable (outlet : Option Outlet) : Prop :=
  ∀ pass ∈ outlet, ∀ text kind, ∃ t, pass text kind = .ok t

private theorem Reliable.passes {outlet : Option Outlet} (reliable : Reliable outlet) (text : String) (kind : Kind) :
    Passes outlet text kind := fun pass member => reliable pass member text kind

theorem reliable_none : Reliable none := by
  intro pass member
  cases member

private theorem send_cases {σ : Type} (outlet : Option Outlet) (text : String) (kind : Kind) (s : σ) :
    Passes outlet text kind ∧ (∃ t, send outlet text kind s = ⟨.ok (), s, t⟩) ∨
      ¬ Passes outlet text kind ∧ ∃ e t, send outlet text kind s = ⟨.error e, s, t⟩ := by
  cases outlet with
  | none => exact Or.inl ⟨fun _ member => (Option.not_mem_none _ member).elim, _, rfl⟩
  | some pass =>
    unfold send
    dsimp only
    cases passed : pass text kind with
    | ok t =>
      refine Or.inl ⟨?_, _, rfl⟩
      rintro _ ⟨⟩
      exact ⟨t, passed⟩
    | error e =>
      refine Or.inr ⟨?_, e, _, rfl⟩
      intro passes
      obtain ⟨t, through⟩ := passes pass rfl
      rw [passed] at through
      cases through

end Message

namespace Collector

/-- The bucket that an answer stands for. -/
def standsFor (env : Surroundings) (r : Response) : Bucket :=
  match r.error, r.result with
  | none, some inlays =>
    if r.client ≠ .absent ∧ env.supports r.client = true then Bucket.ofInlays inlays else Table.empty
  | _, _ => Table.empty

variable (env : Surroundings) (r : Response)

private theorem bucketOf_result {σ : Type} (fine : r.error = none) (s : σ) :
    ∃ t, bucketOf env r s = ⟨.ok (standsFor env r), s, t⟩ := by
  unfold bucketOf standsFor
  rw [fine]
  cases r.result with
  | none => exact ⟨_, rfl⟩
  | some inlays =>
    dsimp only
    by_cases gives : r.client ≠ .absent ∧ env.supports r.client = true
    · have admitted : ¬ (decide (r.client = .absent) || !env.supports r.client) = true := by simp [gives]
      rw [if_pos gives, if_neg admitted]
      exact ⟨_, rfl⟩
    · have refused : (decide (r.client = .absent) || !env.supports r.client) = true := by
        rcases Decidable.not_and_iff_not_or_not.1 gives with unnamed | silent
        · simp [Decidable.not_not.1 unnamed]
        · simp [silent]
      rw [if_neg gives, if_pos refused]
      exact ⟨_, rfl⟩

/-- A failure is reported, if it is to be. -/
def Surroundings.Reports (env : Surroundings) (message : String) : Prop :=
  env.notifies = true → Message.Passes env.outlet s!"Inlay hints: {message}" .error

theorem bucketOf_error {σ : Type} {message : String} (failed : r.error = some message) (s : σ) :
    env.Reports message ∧ (∃ t, bucketOf env r s = ⟨.ok Table.empty, s, t⟩) ∨
      ¬ env.Reports message ∧ ∃ e t, bucketOf env r s = ⟨.error e, s, t⟩ := by
  unfold bucketOf Surroundings.Reports
  rw [failed]
  dsimp only
  cases env.notifies with
  | false => exact Or.inl ⟨nofun, _, rfl⟩
  | true =>
    simp only [if_true, forall_const]
    rw [Act.bind_apply_ok (Act.log_apply _ _ s)]
    rcases Message.send_cases env.outlet s!"Inlay hints: {message}" .error s with
      ⟨passes, t, sent⟩ | ⟨stuck, e, t, sent⟩
    · rw [Act.bind_apply_ok sent]
      exact Or.inl ⟨passes, _, rfl⟩
    · rw [Act.bind_apply_error sent]
      exact Or.inr ⟨stuck, e, _, rfl⟩

private theorem bucketOf_cases {σ : Type} (s : σ) :
    (∃ t, bucketOf env r s = ⟨.ok (standsFor env r), s, t⟩) ∨
      r.error ≠ none ∧ ¬ Message.Reliable env.outlet ∧ ∃ e t, bucketOf env r s = ⟨.error e, s, t⟩ := by
  cases failed : r.error with
  | none => exact Or.inl (bucketOf_result env r failed s)
  | some message =>
    have empty : standsFor env r = Table.empty := by unfold standsFor; rw [failed]
    rcases bucketOf_error env r failed s with ⟨-, found⟩ | ⟨stuck, lost⟩
    · rw [empty]
      exact Or.inl found
    · exact Or.inr ⟨by simp, fun reliable => stuck fun _ => reliable.passes _ _, lost⟩

/-- The collectors that taking in an answer can lead to. -/
inductive Received (c : Collector) : Collector → Prop
  | anonymous : r.buffer = .absent → Received c c
  | gone : r.buffer ≠ .absent → env.isOpen r.buffer = false → Received c (c.forget r.buffer)
  | outdated : r.buffer ≠ .absent → env.isOpen r.buffer = true → c.isOutdated r = true → Received c c
  | unreported : r.buffer ≠ .absent → env.isOpen r.buffer = true → c.isOutdated r = false → r.error ≠ none →
      ¬ Message.Reliable env.outlet → Received c c
  | stored : r.buffer ≠ .absent → env.isOpen r.buffer = true → c.isOutdated r = false →
      Received c (c.store r (standsFor env r))

theorem received (c : Collector) : Received env r c (receive env r c).state := by
  unfold receive
  by_cases anonymous : r.buffer = .absent
  · rw [if_pos anonymous]
    exact .anonymous anonymous
  rw [if_neg anonymous]
  cases isOpen : env.isOpen r.buffer with
  | false =>
    rw [if_pos (by rfl)]
    exact .gone anonymous isOpen
  | true =>
    rw [if_neg (by simp), Act.bind_apply_ok (Act.get_apply c)]
    dsimp only
    cases outdated : c.isOutdated r with
    | true =>
      rw [if_pos rfl]
      exact .outdated anonymous isOpen outdated
    | false =>
      rw [if_neg (by simp)]
      rcases bucketOf_cases env r c with ⟨t, found⟩ | ⟨failed, unreliable, e, t, lost⟩
      · rw [Act.bind_apply_ok found]
        exact .stored anonymous isOpen outdated
      · rw [Act.bind_apply_error lost]
        exact .unreported anonymous isOpen outdated failed unreliable

/-- All that is kept of a buffer: its bucket, and the greatest number of a request answered. -/
structure Kept where
  bucket : Option Bucket
  newest : Option Int

def Kept.nothing : Kept := ⟨none, none⟩

def kept (c : Collector) (buffer : Ident) : Kept := ⟨c.bucket? buffer, c.applied.get? buffer⟩

theorem kept_forget_self (c : Collector) (b : Ident) : (c.forget b).kept b = .nothing := by
  simp [kept, forget, bucket?, Kept.nothing]

theorem kept_forget_of_ne (c : Collector) {b i : Ident} (other : b ≠ i) :
    (c.forget i).kept b = c.kept b := by
  simp [kept, forget, bucket?, Table.get?_erase_of_ne _ other]

theorem kept_store_self (c : Collector) (bucket : Bucket) :
    (c.store r bucket).kept r.buffer = ⟨some bucket, r.request.or (c.kept r.buffer).newest⟩ := by
  cases numbered : r.request <;> simp [kept, store, bucket?, numbered]

theorem kept_store_of_ne (c : Collector) (bucket : Bucket) {b : Ident} (other : b ≠ r.buffer) :
    (c.store r bucket).kept b = c.kept b := by
  cases numbered : r.request <;> simp [kept, store, bucket?, numbered, Table.get?_insert_of_ne _ other]

theorem kept_receive_of_ne (c : Collector) {b : Ident} (other : b ≠ r.buffer) :
    (receive env r c).state.kept b = c.kept b := by
  have outcome := received env r c
  generalize (receive env r c).state = after at outcome ⊢
  cases outcome with
  | anonymous | outdated | unreported => rfl
  | gone => exact kept_forget_of_ne c other
  | stored => exact kept_store_of_ne r c _ other

theorem newest_receive {c : Collector} {b : Ident} {n : Int}
    (newest : (receive env r c).state.applied.get? b = some n) :
    c.applied.get? b = some n ∨ r.buffer = b ∧ r.request = some n := by
  have outcome := received env r c
  generalize (receive env r c).state = after at outcome newest
  cases outcome with
  | anonymous | outdated | unreported => exact Or.inl newest
  | gone =>
    by_cases own : b = r.buffer
    · have nothing := congrArg Kept.newest (kept_forget_self c r.buffer)
      rw [← own] at nothing
      change (c.forget b).applied.get? b = none at nothing
      rw [← own, nothing] at newest
      cases newest
    · exact Or.inl ((congrArg Kept.newest (kept_forget_of_ne c own)).symm.trans newest)
  | stored =>
    by_cases own : b = r.buffer
    · have kept := congrArg Kept.newest (kept_store_self r c (standsFor env r))
      change (c.store r _).applied.get? r.buffer = r.request.or (c.applied.get? r.buffer) at kept
      rw [own, kept] at newest
      cases numbered : r.request with
      | none =>
        rw [numbered] at newest
        exact Or.inl (own ▸ newest)
      | some m =>
        rw [numbered] at newest
        exact Or.inr ⟨own.symm, newest⟩
    · exact Or.inl ((congrArg Kept.newest (kept_store_of_ne r c _ own)).symm.trans newest)

end Collector

end HintLine
