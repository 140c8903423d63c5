import HintLine.Echo.Line
import HintLine.Proofs.Act
import HintLine.Tree.Brackets

/-!
The echo line read back. Texts may be anything, delimiters included; but highlights tell the fragments of a hint apart,
so that from them alone it is found how many hints a line shows, which of them are type hints, and the value and the
label of each. While it is made up, the tree is asked once for each value that there may be, and for nothing else.
-/

set_option autoImplicit false

namespace HintLine

variable {σ α β : Type}

/-- An action that gives a value and leaves the state as it is; on the way just these nodes are looked up. -/
def Act.Yields (x : Act σ α) (a : α) (looked : List (Ident × Int × Int)) : Prop :=
  ∀ s, ∃ t, x s = ⟨.ok a, s, t⟩ ∧ t.lookups = looked

namespace Act

private theorem yields_pure (a : α) : (pure a : Act σ α).Yields a [] := fun _ => ⟨[], rfl, rfl⟩

private theorem yields_log (level : Log.Level) (message : String) : (log level message : Act σ Unit).Yields () [] :=
  fun _ => ⟨_, rfl, rfl⟩

private theorem yields_lookup (b : Ident) (row column : Int) :
    (emit (.lookup b row column) : Act σ Unit).Yields () [(b, row, column)] := fun _ => ⟨_, rfl, rfl⟩

private theorem Yields.bind {x : Act σ α} {f : α → Act σ β} {a : α} {b : β} {before after : List (Ident × Int × Int)}
    (first : x.Yields a before) (second : (f a).Yields b after) : (x >>= f).Yields b (before ++ after) := by
  intro s
  obtain ⟨t, ran, looked⟩ := first s
  obtain ⟨u, went, sought⟩ := second s
  refine ⟨t ++ u, ?_, ?_⟩
  · rw [bind_apply_ok ran, went]
  · rw [Trace.lookups_append, looked, sought]

end Act

/-- A look-up that answers with certain texts, and looks up nothing besides. -/
def Lookup.Reads (lookup : Lookup σ) (texts : Ident → Int → Int → Option String) : Prop :=
  ∀ b row column, (lookup b row column).Yields (texts b row column) []

private theorem Forest.reads_nodeText (f : Forest) : Lookup.Reads (f.nodeText : Lookup σ) f.text? := by
  intro b row column
  unfold Forest.nodeText
  cases f.text? b row column with
  | some text => exact Act.yields_pure _
  | none => exact (Act.yields_log _ _).bind (Act.yields_pure _)

namespace Echo

/-- What a line shows of a hint. -/
structure Reading where
  isType : Bool
  value : Option String
  label : String
  deriving DecidableEq, Repr

/-- The hints that a line shows. Behind the delimiter and a blank, a fragment that is followed by one highlighted as a
delimiter is a value, and the label comes after that; any other is the label itself. -/
def decode : List Fragment → Option (List Reading)
  | [_] => some []
  | _ :: _ :: first :: second :: rest =>
    if second.highlight = .delimiter then
      match rest with
      | label :: _ :: more => (decode more).map (⟨true, some first.text, label.text⟩ :: ·)
      | _ => none
    else (decode rest).map (⟨first.highlight = .type, none, first.text⟩ :: ·)
  | _ => none

/-- Whether a value is looked for: before a type hint that is not at the start of its line, if there are a tree, a
buffer and a line. -/
def Scene.Seeks (scene : Scene σ) (line : Int) (hint : Hint) : Prop :=
  hint.isType = true ∧ scene.tree.isSome = true ∧ scene.buffer ≠ .absent ∧ 1 ≤ line ∧ 1 ≤ hint.character

instance (scene : Scene σ) (line : Int) : DecidablePred (scene.Seeks line) :=
  fun _ => inferInstanceAs (Decidable (_ ∧ _))

/-- What is to be shown of a hint, if the tree has certain texts. -/
def Scene.reading (scene : Scene σ) (texts : Ident → Int → Int → Option String) (line : Int) (hint : Hint) :
    Reading where
  isType := hint.isType
  value :=
    if scene.Seeks line hint then (texts scene.buffer (line - 1) (hint.character - 1)).map Label.shorten else none
  label := Label.trim hint.label

/-- The nodes that are looked up for hints, in their order. -/
def Scene.sought (scene : Scene σ) (line : Int) (hints : List Hint) : List (Ident × Int × Int) :=
  (hints.filter (scene.Seeks line)).map fun hint => (scene.buffer, line - 1, hint.character - 1)

/-- The fragments of a hint, between blanks. -/
def Reading.shown (r : Reading) : List Fragment :=
  if r.isType then valueFragments r.value ++ [⟨r.label, .type⟩] else [⟨r.label, .identifier⟩]

private theorem decode_shown {r : Reading} (plain : r.isType = false → r.value = none) (delimiter : Fragment)
    (more : List Fragment) :
    decode (delimiter :: blank :: r.shown ++ blank :: more) = (decode more).map (r :: ·) := by
  have blanks : blank.highlight ≠ .delimiter := by decide
  have label (text : String) (highlight : Highlight) :
      decode (delimiter :: blank :: ⟨text, highlight⟩ :: blank :: more) =
        (decode more).map (⟨highlight = .type, none, text⟩ :: ·) := by
    rw [decode.eq_def]
    exact if_neg blanks
  rcases r with ⟨_ | _, value, text⟩
  · obtain rfl : value = none := plain rfl
    exact label text .identifier
  · cases value with
    | none => exact label text .type
    | some value => rfl

section Idle

variable {scene : Scene σ} {line : Int} {hint : Hint} (idle : ¬ scene.Seeks line hint)

include idle

private theorem Scene.value_reading_of_idle (texts : Ident → Int → Int → Option String) :
    (scene.reading texts line hint).value = none := if_neg idle

private theorem Scene.sought_of_idle : scene.sought line [hint] = [] := by simp [sought, idle]

end Idle

private theorem Scene.sought_of_seeks {scene : Scene σ} {line : Int} {hint : Hint} (seeks : scene.Seeks line hint) :
    scene.sought line [hint] = [(scene.buffer, line - 1, hint.character - 1)] := by simp [sought, seeks]

private theorem Scene.sought_cons (scene : Scene σ) (line : Int) (hint : Hint) (rest : List Hint) :
    scene.sought line (hint :: rest) = scene.sought line [hint] ++ scene.sought line rest := by
  unfold sought
  rw [← List.map_append, ← List.filter_append, List.singleton_append]

private theorem value_of_idle {scene : Scene σ} {line : Int} {hint : Hint} (type : hint.isType = true)
    (idle : ¬ scene.Seeks line hint) :
    Hint.value scene.tree scene.buffer line hint.character = pure none := by
  unfold Hint.value
  cases tree : scene.tree with
  | none => rfl
  | some lookup =>
    cases buffer : scene.buffer with
    | absent => rfl
    | number | name =>
      have planted : scene.tree.isSome = true := by rw [tree]; rfl
      have named : scene.buffer ≠ .absent := by rw [buffer]; nofun
      have outside : ¬ (1 ≤ line ∧ 1 ≤ hint.character) := fun inside => idle ⟨type, planted, named, inside⟩
      have nowhere : Hint.pointBefore? line hint.character = none := if_pos (by omega)
      rw [nowhere]

section Reads

variable {scene : Scene σ} {texts : Ident → Int → Int → Option String}
  (reads : ∀ lookup ∈ scene.tree, Lookup.Reads lookup texts) (line : Int)

include reads

private theorem yields_value {hint : Hint} (type : hint.isType = true) :
    (Hint.value scene.tree scene.buffer line hint.character).Yields (scene.reading texts line hint).value
      (scene.sought line [hint]) := by
  by_cases seeks : scene.Seeks line hint
  · obtain ⟨-, planted, named, inText, behind⟩ := id seeks
    obtain ⟨lookup, tree⟩ := Option.isSome_iff_exists.1 planted
    have point : Hint.pointBefore? line hint.character = some (line - 1, hint.character - 1) := if_neg (by omega)
    have found (b : Ident) : (do
        Act.emit (.lookup b (line - 1) (hint.character - 1))
        return (← lookup b (line - 1) (hint.character - 1)).map Label.shorten : Act σ (Option String)).Yields
          ((texts b (line - 1) (hint.character - 1)).map Label.shorten) [(b, line - 1, hint.character - 1)] :=
      (Act.yields_lookup _ _ _).bind ((reads lookup tree _ _ _).bind (Act.yields_pure _))
    have value : (scene.reading texts line hint).value =
        (texts scene.buffer (line - 1) (hint.character - 1)).map Label.shorten := if_pos seeks
    unfold Hint.value
    rw [Scene.sought_of_seeks seeks, value, tree, point]
    cases buffer : scene.buffer with
    | absent => exact (named buffer).elim
    | number n => exact found (.number n)
    | name text => exact found (.name text)
  · rw [value_of_idle type seeks, Scene.value_reading_of_idle seeks, Scene.sought_of_idle seeks]
    exact Act.yields_pure none

private theorem yields_content (hint : Hint) :
    (content scene line hint).Yields (scene.reading texts line hint).shown (scene.sought line [hint]) := by
  unfold content Reading.shown
  have own : (scene.reading texts line hint).isType = hint.isType := rfl
  rw [own]
  cases type : hint.isType with
  | false =>
    have idle : ¬ scene.Seeks line hint := fun seeks => Bool.false_ne_true (type.symm.trans seeks.1)
    rw [Scene.sought_of_idle idle]
    exact Act.yields_pure _
  | true =>
    rw [← List.append_nil (scene.sought line [hint])]
    exact (yields_value reads line type).bind (Act.yields_pure _)

private theorem yields_fragmentsFrom (last : Int) (opening : String) (hints : List Hint) :
    ∃ fs, (fragmentsFrom scene line last opening hints).Yields fs (scene.sought line hints) ∧
      decode fs = some (hints.map (scene.reading texts line)) := by
  induction hints generalizing last opening with
  | nil => exact ⟨_, Act.yields_pure _, rfl⟩
  | cons hint rest ih =>
    obtain ⟨more, yields, decoded⟩ := ih hint.character "|"
    have plain (other : (scene.reading texts line hint).isType = false) :
        (scene.reading texts line hint).value = none :=
      Scene.value_reading_of_idle (fun seeks => Bool.false_ne_true (other.symm.trans seeks.1)) texts
    unfold fragmentsFrom
    rw [Scene.sought_cons, ← List.append_nil (scene.sought line rest)]
    refine ⟨_, (yields_content reads line hint).bind (yields.bind (Act.yields_pure _)), ?_⟩
    rw [decode_shown plain, decoded]
    rfl

end Reads

/-- A line of hints can be read back. From its fragments alone it is found what it shows of each hint, one after the
other, so two lines with the same fragments show as many hints and the same of each. A value is shown with just the
type hints behind something of which the tree has a text; and what is looked up is the place before each type hint that
is not at the start of its line, if there are a tree, a buffer and a line. -/
theorem decode_fragments {scene : Scene σ} {texts : Ident → Int → Int → Option String}
    (reads : ∀ lookup ∈ scene.tree, Lookup.Reads lookup texts) (line : Int) (hints : List Hint) :
    ∃ fs, (fragments scene line hints).Yields fs (scene.sought line hints) ∧
      decode fs = some (hints.map (scene.reading texts line)) ∧
      ∀ (other : Scene σ) (known : Ident → Int → Int → Option String),
        (∀ lookup ∈ other.tree, Lookup.Reads lookup known) → ∀ (row : Int) (others : List Hint) (s : σ),
          (fragments other row others s).outcome = .ok fs →
            others.map (other.reading known row) = hints.map (scene.reading texts line) := by
  obtain ⟨fs, yields, decoded⟩ := yields_fragmentsFrom reads line 0 "[" hints
  refine ⟨fs, yields, decoded, ?_⟩
  intro other known knows row others s same
  obtain ⟨gs, given, read⟩ := yields_fragmentsFrom knows row 0 "[" others
  obtain ⟨t, ran, -⟩ := given s
  unfold fragments at same
  rw [ran] at same
  obtain rfl := Except.ok.inj same
  exact Option.some.inj (read.symm.trans decoded)

private def sapling : Forest := Table.empty.insert (.number 1) (Tree.Brackets.tree "x = y")

private def inWords : Scene Unit := ⟨.number 1, 3, some sapling.nodeText⟩

/-- Hints in no order, whose labels look like what stands between hints. -/
private def mixed : List Hint := [⟨":|:", 5, none⟩, ⟨": ]", 1, some Hint.typeKind⟩, ⟨": ", 0, some Hint.typeKind⟩]

theorem decode_fragments_mixed :
    (∀ lookup ∈ inWords.tree, Lookup.Reads lookup sapling.text?) ∧
      ∃ fs, (fragments inWords 1 mixed).Yields fs [(.number 1, 0, 0)] ∧
        decode fs = some [⟨false, none, "|"⟩, ⟨true, some "x", "]"⟩, ⟨true, none, ""⟩] := by
  have reads : ∀ lookup ∈ inWords.tree, Lookup.Reads lookup sapling.text? := by
    intro lookup member
    obtain rfl := Option.some.inj member
    exact sapling.reads_nodeText
  obtain ⟨fs, yields, decoded, -⟩ := decode_fragments reads 1 mixed
  have sought : inWords.sought 1 mixed = [(.number 1, 0, 0)] := by decide
  have shown : mixed.map (inWords.reading sapling.text? 1) =
      [⟨false, none, "|"⟩, ⟨true, some "x", "]"⟩, ⟨true, none, ""⟩] := by decide +kernel
  rw [sought] at yields
  rw [shown] at decoded
  exact ⟨reads, fs, yields, decoded⟩

end Echo

end HintLine
