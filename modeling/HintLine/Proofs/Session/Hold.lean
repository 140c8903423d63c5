import HintLine.Proofs.Echo.Line
import HintLine.Proofs.Hint.Grouping
import HintLine.Proofs.Session.Requests
import HintLine.Session.Clients
import HintLine.Session.Hold

/-!
What is shown of a response while the cursor rests: from the answer of a server to the line in the echo area.
-/

set_option autoImplicit false

namespace HintLine

open HintLine.Terminal (EchoArea)

/-- A line of fragments that displays hints to a cursor: a delimiter, a content, and so on, with the mark on the
delimiter behind the hints at the column or before it, and on nothing else. -/
structure Echo.Displays (column : Int) (hints : List Hint) (line : List Fragment) : Prop where
  pattern : ∃ contents, List.Forall₂ Shows hints contents ∧
    line = woven (delimiter hints.length (mark column hints)) contents
  marked : 0 ≤ column →
    line.filter (fun f => f.highlight = .cursor) =
      [delimiter hints.length (mark column hints) (hints.countP fun h => h.character ≤ column)]
  unmarked : column < 0 → line.filter (fun f => f.highlight = .cursor) = []

private theorem Echo.finds_displays {σ : Type} {scene : Echo.Scene σ} (calm : scene.Calm) (line : Int)
    {hints : List Hint}
    (sorted : hints.Pairwise fun g h => g.character ≤ h.character) (inLine : ∀ h ∈ hints, 0 ≤ h.character) :
    (Echo.fragments scene line hints).Finds (Echo.Displays scene.column hints) := by
  intro s
  obtain ⟨fs, t, ran, ⟨contents, shows, rfl⟩, silent⟩ := finds_fragments calm line sorted inLine s
  refine ⟨_, t, ran, ⟨⟨contents, shows, rfl⟩, ?_, ?_⟩, silent⟩
  · intro inside
    have bound : ∀ k ∈ mark scene.column hints, k ≤ hints.length := by
      intro k member
      rw [mark, if_pos inside] at member
      obtain rfl := Option.some.inj member
      exact List.countP_le_length
    rw [filter_cursor_woven shows, filter_cursor_delimiter bound, mark, if_pos inside]
    rfl
  · intro outside
    have none : mark scene.column hints = none := if_neg (by omega)
    rw [filter_cursor_woven shows, filter_cursor_delimiter (by simp [none]), none]
    rfl

private theorem Echo.moves_display {σ : Type} {scene : Echo.Scene σ} (calm : scene.Calm) (display : Echo.Display)
    (line : Int) (hints : List Hint) : (display.fragments scene line hints).Moves Eq := by
  have trans : ∀ s t u : σ, s = t → t = u → s = u := fun _ _ _ => Eq.trans
  cases display with
  | standard => exact (Echo.finds_some_fragments calm line hints).moves.bind trans fun _ => Act.moves_pure Eq.refl _
  | custom f =>
    refine Act.Moves.bind trans (Act.moves_ofExcept Eq.refl _) fun result => ?_
    split
    · exact (Act.moves_log Eq.refl _ _).bind trans fun _ => Act.moves_pure Eq.refl _
    · exact (Act.moves_ofResult Eq.refl _ _).bind trans fun _ => Act.moves_pure Eq.refl _

theorem Terminal.EchoArea.state_echo (fragments : List Value) (area : EchoArea) :
    (EchoArea.echo fragments area).state = { area with last := fragments } := by
  rw [EchoArea.echo_apply]
  cases area.styles.format fragments with
  | ok text => rfl
  | error e => rfl

namespace Session

/-- The session accepts a response with hints as the latest of its buffer. -/
structure Accepts (s : Session) (r : Response) (inlays : List Inlay) : Prop where
  named : r.buffer ≠ .absent
  isOpen : s.editor.isOpen r.buffer = true
  inTime : s.collector.isOutdated r = false
  fine : r.error = none
  given : r.result = some inlays
  client : r.client ≠ .absent
  supports : s.registry.supports r.client = true

theorem collector_taking {s : Session} {r : Response} (named : r.buffer ≠ .absent)
    (isOpen : s.editor.isOpen r.buffer = true) (inTime : s.collector.isOutdated r = false) :
    (s.taking r).collector = s.collector.store r (Collector.standsFor s.surroundings r) ∨
      r.error ≠ none ∧ (s.taking r).collector = s.collector := by
  have outcome := Collector.received s.surroundings r s.collector
  unfold taking
  dsimp only
  generalize (Collector.receive s.surroundings r s.collector).state = after at outcome ⊢
  cases outcome with
  | anonymous unnamed => exact (named unnamed).elim
  | gone _ isGone =>
    rw [show s.surroundings.isOpen r.buffer = true from isOpen] at isGone
    cases isGone
  | outdated _ _ late =>
    rw [inTime] at late
    cases late
  | unreported _ _ _ failed => exact Or.inr ⟨failed, rfl⟩
  | stored => exact Or.inl rfl

private theorem Accepts.bucket_dispatch {s : Session} {r : Response} {inlays : List Inlay}
    (accepted : s.Accepts r inlays) :
    (dispatch hintMethod r s).state.collector.bucket? r.buffer = some (Bucket.ofInlays inlays) := by
  have value : Collector.standsFor s.surroundings r = Bucket.ofInlays inlays := by
    unfold Collector.standsFor
    rw [accepted.fine, accepted.given]
    exact if_pos ⟨accepted.client, accepted.supports⟩
  rw [state_dispatch_hint]
  rcases collector_taking accepted.named accepted.isOpen accepted.inTime with stored | ⟨failed, -⟩
  · rw [stored, value]
    exact Table.get?_insert_self _ _ _
  · exact (failed accepted.fine).elim

theorem calm_scene (s : Session) : s.scene.Calm := by
  intro lookup member b row column
  obtain ⟨f, -, rfl⟩ := Option.map_eq_some_iff.1 (show s.forest.map Forest.nodeText = some lookup from member)
  exact f.finds_nodeText b row column

private theorem moves_currentFragments : currentFragments.Moves Eq := by
  intro s
  unfold currentFragments
  rw [Act.bind_apply_ok (Act.get_apply s)]
  dsimp only
  cases s.currentHints with
  | nil => rfl
  | cons hint rest =>
    have fragments := Echo.moves_display s.calm_scene s.display s.editor.cursor.line (hint :: rest)
    have trans : ∀ s t u : Session, s = t → t = u → s = u := fun _ _ _ => Eq.trans
    exact fragments.bind trans (fun _ => Act.moves_pure Eq.refl _) s

theorem hold_of_found {s : Session} {values : List Value} {trace : Trace}
    (found : currentFragments s = ⟨.ok values, s, trace⟩) :
    hold s =
      ⟨(EchoArea.echo values s.area).outcome, { s with area := (EchoArea.echo values s.area).state },
        trace ++ (EchoArea.echo values s.area).trace⟩ := by
  unfold hold
  rw [Act.bind_apply_ok found]
  rfl

theorem hold_of_failed {s : Session} {e : Fault} {trace : Trace} (failed : currentFragments s = ⟨.error e, s, trace⟩) :
    hold s = ⟨.error e, s, trace⟩ := Act.bind_apply_error failed

theorem state_hold (s : Session) :
    (hold s).state = { s with area := { s.area with last := (hold s).state.area.last } } := by
  have still := moves_currentFragments s
  unfold hold
  rcases found : currentFragments s with ⟨e | values, after, trace⟩
  · rw [found] at still
    obtain rfl : s = after := still
    rw [Act.bind_apply_error found]
  · rw [found] at still
    obtain rfl : s = after := still
    rw [Act.bind_apply_ok found]
    unfold onArea
    rw [Act.zoom_apply, EchoArea.state_echo]

theorem currentFragments_of_empty {s : Session} (empty : s.currentHints = []) :
    currentFragments s = ⟨.ok [], s, []⟩ := by
  unfold currentFragments
  rw [Act.bind_apply_ok (Act.get_apply s), empty]
  rfl

theorem currentFragments_of_finds {s : Session} (standard : s.settings.display = none) {hints : List Hint}
    (current : s.currentHints = hints) (some : hints ≠ []) {p : List Echo.Fragment → Prop}
    (finds : (Echo.fragments s.scene s.editor.cursor.line hints).Finds p) :
    ∃ line trace, currentFragments s = ⟨.ok (line.map Echo.Fragment.value), s, trace⟩ ∧ p line ∧ trace.Silent := by
  obtain ⟨line, trace, ran, found, silent⟩ := finds s
  refine ⟨line, trace, ?_, found, silent⟩
  have shown : s.display.fragments s.scene s.editor.cursor.line hints s =
      ⟨.ok (.some (line.map Echo.Fragment.value)), s, trace ++ []⟩ := by
    unfold Session.display
    rw [standard]
    exact Act.bind_apply_ok ran
  unfold currentFragments
  rw [Act.bind_apply_ok (Act.get_apply s), current]
  cases hints with
  | nil => exact (some rfl).elim
  | cons hint rest =>
    dsimp only
    rw [Act.bind_apply_ok shown]
    simp

/-- What is shown of a response. While it is the latest of the current buffer, resting the cursor is a single echo:
of nothing if no hint of the response is on the line of the cursor, and otherwise of a line that displays the hints
listed there. -/
theorem hold_of_accepted {s t : Session} {r : Response} {inlays : List Inlay} (accepted : s.Accepts r inlays)
    (latest : t.collector.bucket? r.buffer = (dispatch hintMethod r s).state.collector.bucket? r.buffer)
    (current : t.editor.current = r.buffer) (standard : t.settings.display = none) :
    ∃ (line : List Echo.Fragment) (trace : Trace), trace.Silent ∧
      hold t =
        ⟨(EchoArea.echo (line.map Echo.Fragment.value) t.area).outcome,
          { t with area := (EchoArea.echo (line.map Echo.Fragment.value) t.area).state },
          trace ++ (EchoArea.echo (line.map Echo.Fragment.value) t.area).trace⟩ ∧
      (line = [] ↔ ∀ i ∈ inlays, i.line ≠ t.editor.cursor.line) ∧
      (line ≠ [] → ∃ listed, Bucket.Lists inlays t.editor.cursor.line listed ∧
        Echo.Displays t.editor.cursor.column (listed.map Hint.ofInlay) line) := by
  have named : t.editor.current ≠ .absent := by
    rw [current]
    exact accepted.named
  have hints : t.currentHints = (Bucket.onLine inlays t.editor.cursor.line).map Hint.ofInlay := by
    unfold currentHints Collector.lineHints
    rw [if_neg named, current, latest, accepted.bucket_dispatch]
    exact Bucket.line_ofInlays inlays t.editor.cursor.line
  have sorted : ((Bucket.onLine inlays t.editor.cursor.line).map Hint.ofInlay).Pairwise
      fun g h => g.character ≤ h.character := by
    rw [List.pairwise_map]
    exact (Bucket.pairwise_onLine inlays _).imp fun {i j} before => Int.ofNat_le.2 before
  have inLine : ∀ h ∈ (Bucket.onLine inlays t.editor.cursor.line).map Hint.ofInlay, 0 ≤ h.character := by
    intro h member
    obtain ⟨i, -, rfl⟩ := List.mem_map.1 member
    exact Int.natCast_nonneg _
  by_cases empty : Bucket.onLine inlays t.editor.cursor.line = []
  · have none := Bucket.onLine_eq_nil_iff.1 empty
    rw [empty] at hints
    refine ⟨[], [], Trace.silent_nil, hold_of_found (currentFragments_of_empty hints), ?_, ?_⟩
    · exact ⟨fun _ => none, fun _ => rfl⟩
    · intro nonempty
      exact (nonempty rfl).elim
  · obtain ⟨line, trace, found, displays, silent⟩ :=
      currentFragments_of_finds standard hints (by simpa using empty) (Echo.finds_displays t.calm_scene _ sorted inLine)
    refine ⟨line, trace, silent, hold_of_found found, ?_, fun _ => ⟨_, Bucket.lists_onLine inlays _, displays⟩⟩
    constructor
    · rintro rfl
      obtain ⟨contents, -, line⟩ := displays.pattern
      cases contents <;> simp [Echo.woven] at line
    · intro none
      exact (empty (Bucket.onLine_eq_nil_iff.2 none)).elim

/-- A type hint behind the first character. -/
def typed : List Inlay := [⟨⟨0, 1, by decide, by decide⟩, .whole ": int", some Hint.typeKind⟩]

/-- A session with a file open and a client that gives hints. -/
private def asking : Session :=
  (register (.number 1) ⟨true, .ok (), .ok ()⟩
    (openBuffer ⟨.here, ["a.toy"]⟩ "x = 1" "toy" (.new .standard ⟨[], [], []⟩ (.new [] none) false)).state).state

private def firstAnswer : Response := ⟨.number 1, .number 1, some 1, none, some typed⟩

theorem hold_of_accepted_typed :
    asking.Accepts firstAnswer typed ∧
      ∃ line : List Echo.Fragment, line ≠ [] ∧
        (hold (dispatch hintMethod firstAnswer asking).state).state.area.last = line.map Echo.Fragment.value := by
  have accepted : asking.Accepts firstAnswer typed := by
    constructor <;> decide
  obtain ⟨line, trace, -, held, empty, -⟩ := hold_of_accepted accepted rfl rfl rfl
  refine ⟨accepted, line, ?_, ?_⟩
  · intro nothing
    have none := empty.1 nothing _ List.mem_cons_self
    revert none
    decide
  · rw [held]
    exact congrArg EchoArea.last (EchoArea.state_echo _ _)

end Session

end HintLine
