import HintLine.Proofs.Collector.History
import HintLine.Proofs.Session.Hold

/-!
What a failed request leaves to be shown. Once its failure was taken in the bucket of its buffer is empty, and hints
come there only with later responses. A failure that is to be reported is taken in only after the report: if that does
not get through, the bucket stays as it was, and the hints in it are shown on.
-/

set_option autoImplicit false

namespace HintLine

namespace Collector

private theorem receive_failed (env : Surroundings) {r : Response} {message : String} {c : Collector}
    (named : r.buffer ≠ .absent) (isOpen : env.isOpen r.buffer = true) (inTime : c.isOutdated r = false)
    (failed : r.error = some message) :
    env.Reports message ∧ (∃ t, receive env r c = ⟨.ok (), c.store r Table.empty, t⟩) ∨
      ¬ env.Reports message ∧ ∃ e t, receive env r c = ⟨.error e, c, t⟩ := by
  unfold receive
  rw [if_neg named, isOpen, if_neg (by simp), Act.bind_apply_ok (Act.get_apply c), inTime, if_neg (by simp)]
  rcases bucketOf_error env r failed c with ⟨reports, t, found⟩ | ⟨stuck, e, t, lost⟩
  · rw [Act.bind_apply_ok found]
    exact Or.inl ⟨reports, _, rfl⟩
  · rw [Act.bind_apply_error lost]
    exact Or.inr ⟨stuck, e, t, rfl⟩

private theorem bucket?_after (c : Collector) (e : Event) (b : Ident) :
    (e.after c).bucket? b = c.bucket? b ∨ (e.after c).bucket? b = none ∨
      ∃ d, e = .delivered d ∧ d.response.buffer = b ∧ (e.after c).bucket? b = some d.bucket := by
  cases e with
  | forgotten i =>
    by_cases own : b = i
    · subst own
      exact Or.inr (Or.inl (congrArg Kept.bucket (kept_forget_self c b)))
    · exact Or.inl (congrArg Kept.bucket (kept_forget_of_ne c own))
  | delivered d =>
    by_cases own : b = d.response.buffer
    · subst own
      have outcome := received d.surroundings d.response c
      dsimp only [Event.after]
      generalize (receive d.surroundings d.response c).state = after at outcome ⊢
      cases outcome with
      | anonymous | outdated | unreported => exact Or.inl rfl
      | gone => exact Or.inr (Or.inl (congrArg Kept.bucket (kept_forget_self c _)))
      | stored => exact Or.inr (Or.inr ⟨d, rfl, rfl, congrArg Kept.bucket (kept_store_self _ c _)⟩)
    · exact Or.inl (congrArg Kept.bucket (kept_receive_of_ne _ _ c own))

private theorem bucket?_foldl_after (later : List Event) (c : Collector) (b : Ident) :
    (later.foldl Event.after c).bucket? b = c.bucket? b ∨ (later.foldl Event.after c).bucket? b = none ∨
      ∃ d, .delivered d ∈ later ∧ d.response.buffer = b ∧
        (later.foldl Event.after c).bucket? b = some d.bucket := by
  induction later generalizing c with
  | nil => exact Or.inl rfl
  | cons e later ih =>
    rw [List.foldl_cons]
    rcases ih (e.after c) with same | none | ⟨d, member, own, found⟩
    · rw [same]
      rcases bucket?_after c e b with kept | none | ⟨d, rfl, own, found⟩
      · exact Or.inl kept
      · exact Or.inr (Or.inl none)
      · exact Or.inr (Or.inr ⟨d, List.mem_cons_self, own, found⟩)
    · exact Or.inr (Or.inl none)
    · exact Or.inr (Or.inr ⟨d, List.mem_cons_of_mem e member, own, found⟩)

end Collector

namespace Session

open HintLine.Collector (Event Surroundings receive)
open HintLine.Terminal (EchoArea)

private theorem hold_of_no_hints {s : Session} (none : s.currentHints = []) : hold s = onArea (EchoArea.echo []) s :=
  hold_of_found (currentFragments_of_empty none)

/-- From a collector on, whatever it takes in later, there is nothing to be shown for a buffer but hints of responses
taken in later. -/
def OnlyLaterShown (c : Collector) (buffer : Ident) : Prop :=
  ∀ (later : List Event) (s : Session), s.collector = later.foldl Event.after c → s.editor.current = buffer →
    s.currentHints = [] ∧ hold s = onArea (EchoArea.echo []) s ∨
      ∃ d, .delivered d ∈ later ∧ d.response.buffer = buffer ∧
        s.currentHints = d.bucket.line s.editor.cursor.line

private theorem currentHints_of_current {s : Session} {buffer : Ident} (named : buffer ≠ .absent)
    (current : s.editor.current = buffer) :
    s.currentHints = s.collector.lineHints buffer s.editor.cursor.line := by
  rw [← current] at named ⊢
  exact if_neg named

private theorem onlyLaterShown_of_none {c : Collector} {buffer : Ident} (named : buffer ≠ .absent)
    (none : ∀ line, c.lineHints buffer line = []) : OnlyLaterShown c buffer := by
  intro later s since current
  have hints := currentHints_of_current named current
  have unshown (nothing : s.currentHints = []) : s.currentHints = [] ∧ hold s = onArea (EchoArea.echo []) s :=
    ⟨nothing, hold_of_no_hints nothing⟩
  rcases Collector.bucket?_foldl_after later c buffer with same | gone | ⟨d, member, own, found⟩
  · have kept := none s.editor.cursor.line
    unfold Collector.lineHints at hints kept
    rw [since, same] at hints
    exact Or.inl (unshown (hints.trans kept))
  · unfold Collector.lineHints at hints
    rw [since, gone] at hints
    exact Or.inl (unshown hints)
  · unfold Collector.lineHints at hints
    rw [since, found] at hints
    exact Or.inr ⟨d, member, own, hints⟩

/-- A session in which a buffer is current and the cursor is in some line. -/
private def resting (c : Collector) (buffer : Ident) (line : Int) : Session :=
  { Session.new .standard ⟨[], [], []⟩ (.new [] none) false with
    collector := c
    editor := { Editor.new with current := buffer, cursor := ⟨line, 0⟩ } }

private theorem onlyLaterShown_iff {c : Collector} {buffer : Ident} (named : buffer ≠ .absent) :
    OnlyLaterShown c buffer ↔ ∀ line, c.lineHints buffer line = [] := by
  refine ⟨fun shown line => ?_, onlyLaterShown_of_none named⟩
  rcases shown [] (resting c buffer line) rfl rfl with ⟨nothing, -⟩ | ⟨d, member, -⟩
  · rw [currentHints_of_current named rfl] at nothing
    exact nothing
  · cases member

/-- What a failure of a buffer leaves to be shown, if it is in time. It is taken in just if its report gets through;
otherwise taking it in fails and leaves everything as it was. So the bucket of the buffer is empty afterwards just if
the failure was reported, or need not be, or the bucket was empty before; and nothing is shown for the buffer from then
on but hints of later responses just if that is so, or if there was nothing to be shown before. -/
theorem cleared_by_failure (env : Surroundings) {r : Response} {message : String} {c : Collector}
    (named : r.buffer ≠ .absent) (isOpen : env.isOpen r.buffer = true) (inTime : c.isOutdated r = false)
    (failed : r.error = some message) :
    let after := (receive env r c).state
    ((receive env r c).outcome = .ok () ↔ env.Reports message) ∧
      (¬ env.Reports message → after = c) ∧
      (after.bucket? r.buffer = some Table.empty ↔
        env.Reports message ∨ c.bucket? r.buffer = some Table.empty) ∧
      (OnlyLaterShown after r.buffer ↔ env.Reports message ∨ ∀ line, c.lineHints r.buffer line = []) := by
  intro after
  rw [onlyLaterShown_iff named]
  rcases Collector.receive_failed env named isOpen inTime failed with ⟨reports, t, ran⟩ | ⟨stuck, e, t, ran⟩
  · have left : after = c.store r Table.empty := congrArg Run.state ran
    have cleared : after.bucket? r.buffer = some Table.empty := left ▸ Table.get?_insert_self _ _ _
    have nothing (line : Int) : after.lineHints r.buffer line = [] := by
      unfold Collector.lineHints
      rw [cleared]
      rfl
    rw [ran]
    exact ⟨⟨fun _ => reports, fun _ => rfl⟩, fun stuck => (stuck reports).elim,
      ⟨fun _ => Or.inl reports, fun _ => cleared⟩, ⟨fun _ => Or.inl reports, fun _ => nothing⟩⟩
  · have left : after = c := congrArg Run.state ran
    have only {p : Prop} : env.Reports message ∨ p ↔ p := or_iff_right stuck
    rw [ran, left, only, only]
    exact ⟨⟨nofun, fun reports => (stuck reports).elim⟩, fun _ => rfl, Iff.rfl, Iff.rfl⟩

/-- A collector that keeps a hint of a buffer. -/
private def holding : Collector :=
  Collector.new.store ⟨.number 1, .number 1, some 1, none, none⟩ (Table.empty.insert 1 [⟨": int", 1, none⟩])

/-- Surroundings in which everything is open and failures are reported. -/
private def telling (outlet : Message.Outlet) : Surroundings := ⟨fun _ => true, fun _ => true, true, some outlet⟩

private def failure : Response := ⟨.number 1, .number 1, some 2, some "boom", none⟩

theorem cleared_by_failure_reported :
    let env := telling .recording
    let after := (receive env failure holding).state
    failure.buffer ≠ .absent ∧ env.isOpen failure.buffer = true ∧ holding.isOutdated failure = false ∧
      failure.error = some "boom" ∧ holding.lineHints (.number 1) 1 ≠ [] ∧
      after.bucket? (.number 1) = some Table.empty ∧ OnlyLaterShown after (.number 1) := by
  intro env after
  have named : failure.buffer ≠ .absent := by decide
  have inTime : holding.isOutdated failure = false := by decide
  have reports : env.Reports "boom" := by
    rintro - _ ⟨⟩
    exact ⟨_, rfl⟩
  obtain ⟨-, -, empty, shown⟩ :=
    cleared_by_failure env named (show env.isOpen failure.buffer = true from rfl) inTime
      (show failure.error = some "boom" from rfl)
  exact ⟨named, rfl, inTime, rfl, by decide, empty.2 (Or.inl reports), shown.2 (Or.inl reports)⟩

/-- Hints of a buffer stay, and are shown, if its failure is to be reported on an echo area that does not know the
colour of errors. -/
theorem kept_by_failure_unreported :
    let env := telling (EchoArea.new [("ErrorMsg", [("fg", .str "nocolour")])] none).send
    let after := (receive env failure holding).state
    failure.buffer ≠ .absent ∧ env.isOpen failure.buffer = true ∧ holding.isOutdated failure = false ∧
      failure.error = some "boom" ∧ (receive env failure holding).outcome.isOk = false ∧
      after.bucket? (.number 1) ≠ some Table.empty ∧
      (resting after (.number 1) 1).currentHints = [⟨": int", 1, none⟩] ∧ ¬ OnlyLaterShown after (.number 1) := by
  intro env after
  have kept : (resting after (.number 1) 1).currentHints = [⟨": int", 1, none⟩] := by decide
  have keys : (after.bucket? (.number 1)).map Table.keys = some [1] := by decide
  refine ⟨by decide, rfl, by decide, rfl, by decide, ?_, kept, ?_⟩
  · intro empty
    rw [empty] at keys
    cases keys
  intro shown
  rcases shown [] (resting after (.number 1) 1) rfl rfl with ⟨nothing, -⟩ | ⟨d, member, -⟩
  · rw [kept] at nothing
    cases nothing
  · cases member

end Session

end HintLine
