import HintLine.Proofs.Session.Steps

/-!
What is kept never outlives its buffer. A session is coherent if something is kept of open buffers alone, and the
buffers are named by numbers that were given out; each step keeps it so, in whatever order the steps come.
-/

set_option autoImplicit false

namespace HintLine

/-- What may be kept of a buffer: nothing unless it is open, a number only beside a bucket, and no bucket but a
well-formed one. -/
structure Collector.Kept.Fits (isOpen : Bool) (k : Collector.Kept) : Prop where
  isOpen : k.bucket ≠ none → isOpen = true
  bucket : k.newest ≠ none → k.bucket ≠ none
  wellFormed : ∀ b ∈ k.bucket, b.WellFormed

namespace Collector

private theorem Kept.fits_nothing (isOpen : Bool) : Kept.nothing.Fits isOpen := by
  refine ⟨?_, ?_, ?_⟩
  · intro some
    exact (some rfl).elim
  · intro some
    exact (some rfl).elim
  · intro b member
    cases member

private theorem Kept.Fits.mono {k : Kept} {before after : Bool} (fits : k.Fits before)
    (stays : before = true → after = true) : k.Fits after :=
  ⟨fun some => stays (fits.isOpen some), fits.bucket, fits.wellFormed⟩

def Tidy (isOpen : Ident → Bool) (c : Collector) : Prop := ∀ b, (c.kept b).Fits (isOpen b)

private theorem tidy_new (isOpen : Ident → Bool) : new.Tidy isOpen := fun b => Kept.fits_nothing (isOpen b)

private theorem Tidy.mono {c : Collector} {before after : Ident → Bool} (tidy : c.Tidy before)
    (stays : ∀ b, before b = true → after b = true) : c.Tidy after := fun b => (tidy b).mono (stays b)

private theorem Tidy.forget {c : Collector} {before after : Ident → Bool} (tidy : c.Tidy before) (buffer : Ident)
    (stays : ∀ b, b ≠ buffer → before b = true → after b = true) : (c.forget buffer).Tidy after := by
  intro b
  by_cases own : b = buffer
  · rw [own, kept_forget_self]
    exact Kept.fits_nothing _
  · rw [kept_forget_of_ne c own]
    exact (tidy b).mono (stays b own)

private theorem wellFormed_standsFor (env : Surroundings) (r : Response) : (standsFor env r).WellFormed := by
  unfold standsFor
  split
  · split
    · exact Bucket.wellFormed_ofInlays _
    · exact Bucket.wellFormed_empty
  · exact Bucket.wellFormed_empty

private theorem Tidy.receive {env : Surroundings} {c : Collector} (tidy : c.Tidy env.isOpen) (r : Response) :
    (receive env r c).state.Tidy env.isOpen := by
  have outcome := received env r c
  generalize (Collector.receive env r c).state = after at outcome ⊢
  cases outcome with
  | anonymous | outdated | unreported => exact tidy
  | gone => exact tidy.forget r.buffer fun _ _ => id
  | stored _ isOpen =>
    intro b
    by_cases own : b = r.buffer
    · rw [own, kept_store_self]
      refine ⟨fun _ => isOpen, fun _ => by simp, ?_⟩
      intro bucket member
      obtain rfl := Option.mem_some.1 member
      exact wellFormed_standsFor env r
    · rw [kept_store_of_ne r c _ own]
      exact tidy b

end Collector

/-- An editor in which the current buffer is open, if there is one, and every buffer is named by its number, which
was given out. -/
structure Editor.Sound (ed : Editor) : Prop where
  current : ed.current = .absent ∨ ed.isOpen ed.current = true
  ident : ∀ id b, ed.buffer? id = some b → id = b.ident ∧ b.id < ed.nextId

namespace Editor

theorem sound_new : Sound new := ⟨Or.inl rfl, fun id b found => by cases found⟩

private theorem isOpen_eq (ed : Editor) (id : Ident) : ed.isOpen id = (ed.buffer? id).isSome := rfl

theorem isOpen_closed (ed : Editor) (i j : Ident) : (ed.closed i).isOpen j = if j = i then false else ed.isOpen j := by
  rw [isOpen_eq, buffer?_closed]
  split <;> rfl

theorem buffer?_opened (ed : Editor) (uri text languageId : String) (id : Ident) :
    (ed.opened uri text languageId).1.buffer? id =
      if id = .number ed.nextId then some (ed.opened uri text languageId).2 else ed.buffer? id :=
  Table.get?_insert ed.buffers id (.number ed.nextId) _

theorem isOpen_opened (ed : Editor) (uri text languageId : String) (id : Ident) :
    (ed.opened uri text languageId).1.isOpen id = if id = .number ed.nextId then true else ed.isOpen id := by
  rw [isOpen_eq, buffer?_opened]
  split <;> rfl

theorem Sound.opened {ed : Editor} (sound : ed.Sound) (uri text languageId : String) :
    (ed.opened uri text languageId).1.Sound := by
  constructor
  · right
    show (ed.opened uri text languageId).1.isOpen (.number ed.nextId) = true
    rw [isOpen_opened, if_pos rfl]
  · intro id b found
    show id = b.ident ∧ b.id < ed.nextId + 1
    rw [buffer?_opened] at found
    split at found
    next own =>
      obtain rfl := Option.some.inj found
      exact ⟨own, Nat.lt_succ_self ed.nextId⟩
    next =>
      obtain ⟨named, given⟩ := sound.ident id b found
      exact ⟨named, Nat.lt_succ_of_lt given⟩

theorem Sound.closed {ed : Editor} (sound : ed.Sound) (id : Ident) : (ed.closed id).Sound := by
  constructor
  · by_cases own : ed.current = id
    · left
      show (if ed.current = id then Ident.absent else ed.current) = .absent
      rw [if_pos own]
    · have same : (ed.closed id).current = ed.current := if_neg own
      rw [same, isOpen_closed, if_neg own]
      exact sound.current
  · intro j b found
    rw [buffer?_closed] at found
    split at found
    · cases found
    · exact sound.ident j b found

theorem Sound.setCurrent {ed : Editor} (sound : ed.Sound) {id : Ident} (isOpen : ed.isOpen id = true) :
    { ed with current := id }.Sound :=
  ⟨Or.inr isOpen, sound.ident⟩

theorem Sound.setCursor {ed : Editor} (sound : ed.Sound) (cursor : Cursor) : { ed with cursor }.Sound :=
  ⟨sound.current, sound.ident⟩

end Editor

namespace Session

/-- A session in which what is kept never outlives its buffer. -/
structure Coherent (s : Session) : Prop where
  forgets : s.wiring.forgets = true
  editor : s.editor.Sound
  collector : s.collector.Tidy s.editor.isOpen

namespace Coherent

theorem new (settings : Settings Plugin.Callable) (files : Files) (area : Terminal.EchoArea) (parses : Bool) :
    (Session.new settings files area parses).Coherent :=
  ⟨rfl, Editor.sound_new, Collector.tidy_new _⟩

theorem of_same {s t : Session} (coherent : s.Coherent) (editor : t.editor = s.editor)
    (collector : t.collector = s.collector) (forgets : t.wiring.forgets = s.wiring.forgets) : t.Coherent := by
  refine ⟨forgets.trans coherent.forgets, ?_, ?_⟩
  · rw [editor]
    exact coherent.editor
  · rw [editor, collector]
    exact coherent.collector

private theorem taking {s : Session} (coherent : s.Coherent) (r : Response) : (s.taking r).Coherent := by
  have tidy : s.collector.Tidy s.surroundings.isOpen := coherent.collector
  exact ⟨coherent.forgets, coherent.editor, tidy.receive r⟩

private theorem beside {s t : Session} (coherent : s.Coherent) (beside : s.Beside t) : t.Coherent :=
  coherent.of_same beside.editor beside.collector beside.forgets

theorem effect {s : Session} (coherent : s.Coherent) (d : Deed) : (d.effect s).Coherent := by
  cases d with
  | openBuffer path text languageId =>
    refine ⟨coherent.forgets, coherent.editor.opened _ _ _, coherent.collector.mono ?_⟩
    intro b isOpen
    show (s.editor.opened _ _ _).1.isOpen b = true
    rw [Editor.isOpen_opened, isOpen, ite_self]
  | closeBuffer buffer =>
    rw [Deed.effect, if_pos coherent.forgets]
    refine ⟨coherent.forgets, coherent.editor.closed buffer, coherent.collector.forget buffer ?_⟩
    intro b other isOpen
    show (s.editor.closed buffer).isOpen b = true
    rw [Editor.isOpen_closed, if_neg other, isOpen]
  | setCurrent buffer =>
    rw [Deed.effect]
    split
    next isOpen => exact ⟨coherent.forgets, coherent.editor.setCurrent isOpen, coherent.collector⟩
    · exact coherent
  | setCursor cursor => exact ⟨coherent.forgets, coherent.editor.setCursor cursor, coherent.collector⟩
  | attach buffer client =>
    rw [Deed.effect]
    split
    · exact coherent.of_same rfl rfl rfl
    · exact coherent
  | attached buffer client =>
    rw [Deed.effect]
    split
    · exact coherent.of_same rfl rfl rfl
    · exact coherent
  | parse | enable | hold | silence => exact coherent.of_same rfl rfl rfl

private theorem discarding {s : Session} (coherent : s.Coherent) (r : Client.Request) : (s.discarding r).Coherent :=
  coherent.of_same rfl rfl rfl

private theorem doing {s : Session} (coherent : s.Coherent) (job : Client.Job) : (s.doing job).Coherent := by
  cases job with
  | send buffer client =>
    have numbered : s.numbering.Coherent := coherent.of_same rfl rfl rfl
    rw [Session.doing]
    split
    · exact numbered.of_same rfl rfl rfl
    · exact (numbered.taking _).discarding _
  | deliver request answer =>
    rw [Session.doing]
    split
    · exact (coherent.taking _).discarding _
    · exact coherent.discarding _

theorem after {s : Session} (coherent : s.Coherent) (step : Step) : (step.after s).Coherent := by
  cases step with
  | deed d =>
    rw [after_deed]
    exact coherent.effect d
  | register client c => exact coherent.beside (moves_register client c s)
  | unregister client => exact coherent.beside (moves_unregister client s)
  | start client server command root => exact coherent.beside (moves_start client server command root s)
  | stop => exact coherent.beside (moves_stop s)
  | advance =>
    rw [after_advance]
    split
    · exact coherent
    next job due _ =>
      have popped : (s.withDue due).Coherent := coherent.of_same rfl rfl rfl
      exact popped.doing job
  | respond index answer =>
    rw [after_respond]
    split
    · exact coherent
    · exact coherent.of_same rfl rfl rfl
  | dispatch method r =>
    rw [after_dispatch]
    split
    · exact coherent.taking r
    · exact coherent

theorem run {s : Session} (coherent : s.Coherent) (steps : List Step) : (s.run steps).Coherent := by
  induction steps generalizing s with
  | nil => exact coherent
  | cons step steps ih => exact ih (coherent.after step)

end Coherent

/-- What the steps of a run yield, in order. -/
def yields {α : Type} (f : Session → Step → Option α) : Session → List Step → List α
  | _, [] => []
  | s, step :: steps => (f s step).toList ++ yields f (step.after s) steps

/-- The buffer that opening a file returns, if a step does that. -/
def opened? (s : Session) : Step → Option Buffer
  | .deed (.openBuffer path text languageId) => (openBuffer path text languageId s).outcome.toOption
  | _ => none

def openings : Session → List Step → List Buffer := yields opened?

/-- The response that doing a job hands to the collector, if there is one. -/
def reply? (s : Session) : Client.Job → Option Response
  | .send buffer client =>
    if s.canSend buffer client then none else some (s.nextRequest buffer client).unanswered
  | .deliver request answer => (request.response answer).toOption

/-- The response that a step hands to the collector, if there is one. -/
def response? (s : Session) : Step → Option Response
  | .dispatch method r => if method = hintMethod then some r else none
  | .advance => s.registry.due.head?.bind s.reply?
  | _ => none

def deliveries : Session → List Step → List Response := yields response?

theorem nextId_effect (s : Session) (d : Deed) :
    (d.effect s).editor.nextId = s.editor.nextId + (s.opened? (.deed d)).toList.length := by
  cases d with
  | openBuffer | setCursor | parse | enable | hold | silence => rfl
  | closeBuffer | setCurrent | attach | attached =>
    rw [Deed.effect]
    split <;> rfl

private theorem nextId_le_after (s : Session) (step : Step) : s.editor.nextId ≤ (step.after s).editor.nextId := by
  cases step with
  | deed d =>
    rw [after_deed, nextId_effect]
    exact Nat.le_add_right _ _
  | _ => exact Nat.le_of_eq (congrArg Editor.nextId (editor_after _ _ (by intro d same; cases same)).symm)

private theorem opened?_eq_some {s : Session} {step : Step} {b : Buffer} (opened : s.opened? step = some b) :
    b.id = s.editor.nextId ∧ (step.after s).editor.nextId = s.editor.nextId + 1 := by
  cases step with
  | deed d =>
    rw [after_deed, nextId_effect, opened]
    refine ⟨?_, rfl⟩
    cases d with
    | openBuffer path text languageId =>
      rw [opened?, openBuffer_apply] at opened
      obtain rfl := Option.some.inj opened
      rfl
    | _ => cases opened
  | _ => cases opened

private theorem pairwise_openings (s : Session) (steps : List Step) :
    (∀ b ∈ s.openings steps, s.editor.nextId ≤ b.id) ∧ (s.openings steps).Pairwise fun a b => a.id < b.id := by
  induction steps generalizing s with
  | nil =>
    refine ⟨?_, .nil⟩
    intro b member
    cases member
  | cons step steps ih =>
    obtain ⟨above, ordered⟩ := ih (step.after s)
    have cons : s.openings (step :: steps) = (s.opened? step).toList ++ (step.after s).openings steps := rfl
    rw [cons]
    cases opened : s.opened? step with
    | none =>
      refine ⟨?_, ordered⟩
      intro b member
      exact Nat.le_trans (s.nextId_le_after step) (above b member)
    | some first =>
      obtain ⟨own, next⟩ := opened?_eq_some opened
      rw [next] at above
      refine ⟨?_, List.pairwise_cons.2 ⟨?_, ordered⟩⟩
      · intro b member
        rcases List.mem_cons.1 member with rfl | later
        · exact Nat.le_of_eq own.symm
        · exact Nat.le_of_succ_le (above b later)
      · intro b later
        rw [own]
        exact above b later

private theorem kept_forget (c : Collector) (i b : Ident) :
    (c.forget i).kept b = c.kept b ∨ (c.forget i).kept b = .nothing := by
  by_cases own : b = i
  · rw [own]
    exact Or.inr (Collector.kept_forget_self c i)
  · exact Or.inl (Collector.kept_forget_of_ne c own)

private theorem kept_doing (s : Session) (job : Client.Job) {b : Ident}
    (silent : ∀ r ∈ s.reply? job, r.buffer ≠ b) : (s.doing job).collector.kept b = s.collector.kept b := by
  cases job with
  | send buffer client =>
    rw [doing]
    split
    next => rfl
    next unable =>
      have other := silent _ (by rw [reply?, if_neg unable]; rfl)
      exact Collector.kept_receive_of_ne _ _ _ other.symm
  | deliver request answer =>
    rw [doing]
    split
    next response made =>
      have other := silent response (by rw [reply?, made]; rfl)
      exact Collector.kept_receive_of_ne _ _ _ other.symm
    next => rfl

theorem kept_after (s : Session) (step : Step) {b : Ident} (silent : ∀ r ∈ s.response? step, r.buffer ≠ b) :
    (step.after s).collector.kept b = s.collector.kept b ∨ (step.after s).collector.kept b = .nothing := by
  cases step with
  | deed d =>
    rw [after_deed]
    cases d with
    | closeBuffer buffer =>
      rw [Deed.effect]
      split
      · exact kept_forget s.collector buffer b
      · exact Or.inl rfl
    | openBuffer | setCursor | parse | enable | hold | silence => exact Or.inl rfl
    | setCurrent | attach | attached =>
      left
      rw [Deed.effect]
      split <;> rfl
  | register client c => exact Or.inl ((moves_register client c s).kept b)
  | unregister client => exact Or.inl ((moves_unregister client s).kept b)
  | start client server command root => exact Or.inl ((moves_start client server command root s).kept b)
  | stop => exact Or.inl ((moves_stop s).kept b)
  | advance =>
    left
    rw [after_advance]
    split
    next => rfl
    next job due jobs =>
      refine kept_doing (s.withDue due) job ?_
      intro r member
      refine silent r ?_
      rw [response?, jobs]
      exact member
  | respond index answer =>
    left
    rw [after_respond]
    split <;> rfl
  | dispatch method r =>
    left
    rw [after_dispatch]
    split
    next wanted =>
      have other := silent r (by rw [response?, if_pos wanted]; rfl)
      exact Collector.kept_receive_of_ne _ _ _ other.symm
    next => rfl

private theorem bucket?_run {s : Session} {b : Ident} (none : s.collector.bucket? b = none) (steps : List Step)
    (silent : ∀ r ∈ s.deliveries steps, r.buffer ≠ b) : (s.run steps).collector.bucket? b = .none := by
  induction steps generalizing s with
  | nil => exact none
  | cons step steps ih =>
    have first : ∀ r ∈ s.response? step, r.buffer ≠ b := by
      intro r member
      refine silent r (List.mem_append_left _ ?_)
      rw [Option.mem_toList]
      exact member
    refine ih ?_ fun r member => silent r (List.mem_append_right _ member)
    rcases s.kept_after step first with same | gone
    · exact (congrArg Collector.Kept.bucket same).trans none
    · exact congrArg Collector.Kept.bucket gone

theorem Coherent.kept_closed {s : Session} (coherent : s.Coherent) {b : Ident}
    (closed : ¬ s.editor.isOpen b = true) : s.collector.kept b = .nothing := by
  have fits := coherent.collector b
  have bucket : (s.collector.kept b).bucket = none := by
    by_contra some
    exact closed (fits.isOpen some)
  have newest : (s.collector.kept b).newest = none := by
    by_contra some
    exact fits.bucket some bucket
  generalize s.collector.kept b = k at bucket newest ⊢
  cases k
  cases bucket
  cases newest
  rfl

theorem Coherent.kept_unopened {s : Session} (coherent : s.Coherent) {n : Nat} (unopened : s.editor.nextId ≤ n) :
    s.collector.kept (.number n) = .nothing := by
  refine coherent.kept_closed fun isOpen => ?_
  obtain ⟨b, found⟩ := Option.isSome_iff_exists.1 isOpen
  obtain ⟨same, given⟩ := coherent.editor.ident _ b found
  have number : (n : Int) = b.id := by simpa [Buffer.ident] using same
  omega

private theorem Coherent.bucket?_opened {s : Session} (coherent : s.Coherent) {step : Step} {b : Buffer}
    (opened : s.opened? step = some b) (steps : List Step)
    (silent : ∀ r ∈ (step.after s).deliveries steps, r.buffer ≠ b.ident) :
    (s.run (step :: steps)).collector.bucket? b.ident = none := by
  obtain ⟨own, -⟩ := opened?_eq_some opened
  have none := congrArg Collector.Kept.bucket (coherent.kept_unopened (Nat.le_of_eq own.symm))
  refine bucket?_run none (step :: steps) ?_
  have quiet : s.response? step = .none := by
    cases step with
    | deed d => rfl
    | _ => cases opened
  have same : s.deliveries (step :: steps) = (step.after s).deliveries steps := by
    rw [deliveries, yields, quiet]
    rfl
  rw [same]
  exact silent

/-- State never outlives its buffer. After any steps of a session in which everything is joined: hints are kept of
open buffers alone, and numbers of requests only beside hints; the current buffer is open, if there is one; open
buffers are named by numbers below the next one; no file is opened under a name that was given before, and none
has hints until a response for it is delivered; and every bucket is well formed. -/
theorem coherence (settings : Settings Plugin.Callable) (files : Files) (area : Terminal.EchoArea) (parses : Bool)
    (steps : List Step) :
    let start := Session.new settings files area parses
    let s := start.run steps
    (∀ b ∈ s.collector.hints.keys, s.editor.isOpen b = true) ∧
      (∀ b ∈ s.collector.applied.keys, b ∈ s.collector.hints.keys) ∧
      (s.editor.current = .absent ∨ s.editor.isOpen s.editor.current = true) ∧
      (∀ b ∈ s.editor.buffers.keys, ∃ n : Nat, b = .number n ∧ n < s.editor.nextId) ∧
      ((start.openings steps).map Buffer.ident).Nodup ∧
      (∀ before step after b, steps = before ++ step :: after → (start.run before).opened? step = some b →
        (∀ r ∈ (start.run (before ++ [step])).deliveries after, r.buffer ≠ b.ident) →
        s.collector.bucket? b.ident = none) ∧
      ∀ b bucket, s.collector.bucket? b = some bucket → bucket.WellFormed := by
  intro start s
  have coherent : s.Coherent := (Coherent.new settings files area parses).run steps
  have kept (b : Ident) : b ∈ s.collector.hints.keys ↔ s.collector.bucket? b ≠ none := by
    rw [← Table.contains_iff]
    exact Option.isSome_iff_ne_none
  have applied (b : Ident) : b ∈ s.collector.applied.keys ↔ s.collector.applied.get? b ≠ none := by
    rw [← Table.contains_iff]
    exact Option.isSome_iff_ne_none
  refine ⟨?_, ?_, coherent.editor.current, ?_, ?_, ?_, ?_⟩
  · intro b member
    exact (coherent.collector b).isOpen ((kept b).1 member)
  · intro b member
    exact (kept b).2 ((coherent.collector b).bucket ((applied b).1 member))
  · intro id member
    obtain ⟨b, found⟩ := Option.isSome_iff_exists.1 (Table.contains_iff.2 member)
    obtain ⟨named, given⟩ := coherent.editor.ident id b found
    exact ⟨b.id, named, given⟩
  · rw [List.Nodup, List.pairwise_map]
    refine (start.pairwise_openings steps).2.imp fun {a b} before same => ?_
    have number : (a.id : Int) = b.id := by simpa [Buffer.ident] using same
    omega
  · rintro before step after b split opened silent
    have there : (start.run before).Coherent := (Coherent.new settings files area parses).run before
    rw [run_concat] at silent
    have fresh := there.bucket?_opened opened after silent
    rw [← run_append, ← split] at fresh
    exact fresh
  · intro b bucket found
    exact (coherent.collector b).wellFormed bucket found

/-- A file is opened and closed, its hints come before and after that, and another file is opened. -/
private def reopening : List Step :=
  [.deed (.openBuffer ⟨.here, ["a.toy"]⟩ "x = 1" "toy"),
    .dispatch hintMethod ⟨.number 1, .number 1, some 1, none, none⟩,
    .deed (.closeBuffer (.number 1)),
    .dispatch hintMethod ⟨.number 1, .number 1, some 2, none, none⟩,
    .deed (.openBuffer ⟨.here, ["b.toy"]⟩ "y = 2" "toy")]

theorem coherence_reopening :
    let s := (Session.new .standard ⟨[], [], []⟩ (.new [] none) false).run reopening
    s.editor.isOpen (.number 2) = true ∧ s.collector.bucket? (.number 2) = none ∧
      ∀ b ∈ s.collector.hints.keys, s.editor.isOpen b = true := by
  intro s
  obtain ⟨kept, -, -, -, -, fresh, -⟩ := coherence .standard ⟨[], [], []⟩ (.new [] none) false reopening
  refine ⟨rfl, ?_, kept⟩
  refine fresh (reopening.take 4) (.deed (.openBuffer ⟨.here, ["b.toy"]⟩ "y = 2" "toy")) [] _ rfl rfl ?_
  intro r member
  cases member

end Session

end HintLine
