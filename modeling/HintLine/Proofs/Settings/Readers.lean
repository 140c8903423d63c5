import HintLine.Proofs.Command.Prepare

/-!
The settings of a file with their display and without it. With it they are read just if they are read without it and the
display, where one is named, can be called; nothing else changes on the way. Both depend on the four fields of the
section alone.
-/

set_option autoImplicit false

namespace HintLine.Settings

open HintLine.Plugin (Callable Catalogue)

variable {σ : Type}

/-- The display that some settings name can be called, if they name one. -/
def Displays (cat : Catalogue) (named : Settings String) (s : σ) : Prop :=
  named.display = none ∨
    ∃ name c, named.display = some name ∧ (cat.member name s).outcome = .ok (.callable c)

private theorem outcome_findDisplay_iff (cat : Catalogue) (name : String) (c : Callable) (s : σ) :
    (findDisplay cat name s).outcome = .ok c ↔ (cat.member name s).outcome = .ok (.callable c) := by
  unfold findDisplay
  rw [Act.bind_apply_ok (Act.attempt_apply _ s)]
  rcases (cat.member name s).outcome with e | m
  · constructor
    · intro found
      cases e <;> cases found
    · rintro ⟨⟩
  · cases m with
    | callable d =>
      constructor
      · intro found
        rw [Except.ok.inj found]
      · rintro ⟨⟩
        rfl
    | value v => exact ⟨nofun, nofun⟩
    | module name => exact ⟨nofun, nofun⟩

private theorem outcome_displayed_iff (cat : Catalogue) (named : Settings String) (settings : Settings Callable)
    (s : σ) :
    (displayed cat named s).outcome = .ok settings ↔
      (named.display = none ∧ settings = { named with display := none }) ∨
      ∃ name c, named.display = some name ∧ (cat.member name s).outcome = .ok (.callable c) ∧
        settings = { named with display := some c } := by
  unfold displayed
  cases display : named.display with
  | none =>
    constructor
    · intro done
      exact Or.inl ⟨rfl, (Except.ok.inj done).symm⟩
    · rintro (⟨-, rfl⟩ | ⟨_, _, ⟨⟩, -⟩)
      rfl
  | some name =>
    have looked := outcome_findDisplay_iff cat name (s := s)
    dsimp only
    rw [map_eq_pure_bind, bind_assoc]
    rcases ran : findDisplay cat name s with ⟨e | c, after, trace⟩
    · rw [Act.bind_apply_error ran]
      constructor
      · rintro ⟨⟩
      · rintro (⟨⟨⟩, -⟩ | ⟨_, c, ⟨⟩, found, -⟩)
        have := (looked c).2 found
        rw [ran] at this
        cases this
    · rw [Act.bind_apply_ok ran]
      have found := (looked c).1 (congrArg Run.outcome ran)
      constructor
      · intro done
        exact Or.inr ⟨name, c, rfl, found, (Except.ok.inj done).symm⟩
      · rintro (⟨⟨⟩, -⟩ | ⟨_, d, ⟨⟩, again, rfl⟩)
        rw [found] at again
        obtain rfl := Plugin.Member.callable.inj (Except.ok.inj again)
        rfl

private theorem exists_displayed_iff (cat : Catalogue) (named : Settings String) (s : σ) :
    (∃ settings, (displayed cat named s).outcome = .ok settings) ↔ Displays cat named s := by
  simp only [outcome_displayed_iff, Displays]
  constructor
  · rintro ⟨_, ⟨none, -⟩ | ⟨name, c, given, found, -⟩⟩
    · exact Or.inl none
    · exact Or.inr ⟨name, c, given, found⟩
  · rintro (none | ⟨name, c, given, found⟩)
    · exact ⟨_, Or.inl ⟨none, rfl⟩⟩
    · exact ⟨_, Or.inr ⟨name, c, given, found, rfl⟩⟩

private theorem outcome_read_eq (cat : Catalogue) (files : Files) (path : Path) (s : σ) :
    (read cat files (some path) s).outcome =
      match (readNamed files path s).outcome with
      | .ok named => (displayed cat named s).outcome
      | .error e => .error e := by
  obtain ⟨o, t, steady⟩ : (readNamed files path : Act σ (Settings String)).Steady := steady_readNamed files path
  rw [read_some]
  cases o with
  | error e => rw [Act.bind_apply_error (steady s), steady s]
  | ok named => rw [Act.bind_apply_ok (steady s), steady s]

/-- The section of a file, if the file is well formed and the section is a table. -/
def HasSection (files : Files) (path : Path) (fields : List (String × Toml.Item)) : Prop :=
  ∃ bytes document tool, files.read path = .ok bytes ∧ Toml.ofBytes? bytes = some document ∧
    document.lookup "tool" = some (.table tool) ∧ tool.lookup "echohint" = some (.table fields)

/-- A key that two tables have not, or for which they have equal values of one kind. -/
def AgreeOn (first second : List (String × Toml.Item)) (key : String) : Prop :=
  (first.lookup key).map (fun i => (i.value, i.kind)) = (second.lookup key).map fun i => (i.value, i.kind)

def fieldNames : List String := ["auto_enable", "display", "notify_errors", "log_level"]

private theorem ofFields_congr {δ : Type} (model : String) (rule : Given → Except Defect (Option δ))
    {first second : Fields} (agree : ∀ name ∈ fieldNames, first.lookup name = second.lookup name) :
    ofFields model rule first = ofFields model rule second := by
  have same {α : Type} (name : String) (member : name ∈ fieldNames) (rule : Given → Except Defect α) (default : α) :
      field first name rule default = field second name rule default := by
    rw [field, field, agree name member]
  unfold ofFields
  rw [same "auto_enable" (by decide), same "display" (by decide), same "notify_errors" (by decide),
    same "log_level" (by decide)]

private theorem lookup_ofItem (fields : List (String × Toml.Item)) (key : String) :
    (fields.map fun f => (f.1, Given.ofItem f.2)).lookup key = (fields.lookup key).map Given.ofItem := by
  induction fields with
  | nil => rfl
  | cons f fields ih =>
    rw [List.map_cons, List.lookup_cons, List.lookup_cons, ih]
    cases key == f.1 <;> rfl

private theorem AgreeOn.lookup_eq {first second : List (String × Toml.Item)} {key : String}
    (agree : AgreeOn first second key) : (first.map fun f => (f.1, Given.ofItem f.2)).lookup key =
      (second.map fun f => (f.1, Given.ofItem f.2)).lookup key := by
  have taken := congrArg (Option.map fun p => (⟨p.1, p.2, none⟩ : Given)) agree
  rw [Option.map_map, Option.map_map] at taken
  rw [lookup_ofItem, lookup_ofItem]
  exact taken

private theorem readNamed_of_hasSection {files : Files} {path : Path} {fields : List (String × Toml.Item)}
    (section_ : HasSection files path fields) (s : σ) :
    readNamed files path s =
      ⟨(ofFile (fields.map fun f => (f.1, Given.ofItem f.2))).mapError (.refusal <| .invalid path.text ·), s,
        [.log ⟨.trace, s!"Read config in {path.text}"⟩]⟩ := by
  obtain ⟨bytes, document, tool, found, parsed, tooled, given⟩ := section_
  have shape : section? document = .ok (some (fields.map fun f => (f.1, Given.ofItem f.2))) := by
    rw [section?, tooled]
    dsimp only
    rw [given]
  unfold readNamed
  rw [Act.bind_apply_ok (Act.log_apply _ _ s), found]
  rw [Act.bind_apply_ok (Act.ofResult_ok_apply _ _ s)]
  dsimp only
  rw [parsed]
  dsimp only
  rw [shape]
  rw [Act.bind_apply_ok (Act.ofExcept_apply _ s)]
  dsimp only
  cases ofFile (fields.map fun f => (f.1, Given.ofItem f.2)) <;> rfl

/-- Settings are read with their display just if they are read without it and the display that they name, if any, can
be called. They are the same but for the display then, which is there in both or in neither, and being checked once more
neither refuses nor changes them; a fault of the one reading is that of the other. Both readings take the same course for
two files whose sections agree on the four fields, whatever else the files hold. -/
theorem readers_agree (cat : Catalogue) (files : Files) (path : Path) (s : σ) :
    let brief := readNamed files path s
    let full := read cat files (some path) s
    ((∃ settings, full.outcome = .ok settings) ↔ ∃ named, brief.outcome = .ok named ∧ Displays cat named s) ∧
    (∀ named settings, brief.outcome = .ok named → full.outcome = .ok settings →
      settings.autoEnable = named.autoEnable ∧ settings.notifyErrors = named.notifyErrors ∧
        settings.logLevel = named.logLevel ∧ (settings.display = none ↔ named.display = none) ∧
        settings.logLevel ∈ Log.Level.all ∧
        ∀ display, ofGiven (named.given display) = .ok { named with display }) ∧
    (∀ e, brief.outcome = .error e → full.outcome = .error e) ∧
    ∀ others first second, HasSection files path first → HasSection others path second →
      (∀ key ∈ fieldNames, AgreeOn first second key) →
        brief = readNamed others path s ∧ full = read cat others (some path) s := by
  dsimp only
  refine ⟨?succeeds, ?same, ?fails, ?sections⟩
  case succeeds =>
    rw [outcome_read_eq]
    rcases (readNamed files path s).outcome with e | named
    · constructor
      · rintro ⟨_, ⟨⟩⟩
      · rintro ⟨_, ⟨⟩, -⟩
    · rw [exists_displayed_iff]
      constructor
      · exact fun shown => ⟨named, rfl, shown⟩
      · rintro ⟨_, ⟨⟩, shown⟩
        exact shown
  case same =>
    intro named settings done finished
    have levelled := logLevel_mem_readNamed done
    rw [outcome_read_eq, done] at finished
    rcases (outcome_displayed_iff cat named settings s).1 finished with ⟨none, rfl⟩ | ⟨name, c, given, -, rfl⟩
    · exact ⟨rfl, rfl, rfl, iff_of_true rfl none, levelled, ofGiven_given levelled⟩
    · refine ⟨rfl, rfl, rfl, iff_of_false nofun ?_, levelled, ofGiven_given levelled⟩
      rw [given]
      exact nofun
  case fails =>
    intro e failed
    rw [outcome_read_eq, failed]
  case sections =>
    intro others first second here there agree
    have brief (s : σ) : readNamed files path s = readNamed others path s := by
      rw [readNamed_of_hasSection here, readNamed_of_hasSection there, ofFile, ofFile,
        ofFields_congr _ _ fun name member => (agree name member).lookup_eq]
    refine ⟨brief s, ?_⟩
    rw [read_some, read_some, show readNamed files path = readNamed others path from funext brief]

/-- The line `tool.echohint.auto_enable="off"`. -/
private def dotted : List UInt8 :=
  [116, 111, 111, 108, 46, 101, 99, 104, 111, 104, 105, 110, 116, 46, 97, 117, 116, 111, 95, 101, 110, 97, 98, 108,
   101, 61, 34, 111, 102, 102, 34]

/-- The line `tool.echohint={x=1,auto_enable="off"}`. -/
private def braced : List UInt8 :=
  [116, 111, 111, 108, 46, 101, 99, 104, 111, 104, 105, 110, 116, 61, 123, 120, 61, 49, 44, 97, 117, 116, 111, 95, 101,
   110, 97, 98, 108, 101, 61, 34, 111, 102, 102, 34, 125]

private theorem hasSection_dotted : HasSection (Files.alone dotted) (.ofString "c") [("auto_enable", .string "off")] :=
  ⟨dotted, [("tool", .table [("echohint", .table [("auto_enable", .string "off")])])],
    [("echohint", .table [("auto_enable", .string "off")])], Files.read_alone dotted, rfl, rfl, rfl⟩

private theorem hasSection_braced :
    HasSection (Files.alone braced) (.ofString "c") [("x", .integer 1), ("auto_enable", .string "off")] :=
  ⟨braced, [("tool", .table [("echohint", .table [("x", .integer 1), ("auto_enable", .string "off")])])],
    [("echohint", .table [("x", .integer 1), ("auto_enable", .string "off")])], Files.read_alone braced, rfl, rfl, rfl⟩

theorem readers_agree_braced :
    let path := Path.ofString "c"
    let first : List (String × Toml.Item) := [("auto_enable", .string "off")]
    let second : List (String × Toml.Item) := [("x", .integer 1), ("auto_enable", .string "off")]
    HasSection (Files.alone dotted) path first ∧ HasSection (Files.alone braced) path second ∧
      (∀ key ∈ fieldNames, AgreeOn first second key) ∧
      (readNamed (Files.alone dotted) path () = readNamed (Files.alone braced) path () ∧
        read Plugin.Samples.catalogue (Files.alone dotted) (some path) () =
          read Plugin.Samples.catalogue (Files.alone braced) (some path) ()) ∧
      ∃ named settings, (readNamed (Files.alone braced) path ()).outcome = .ok named ∧ named.autoEnable = false ∧
        (read Plugin.Samples.catalogue (Files.alone braced) (some path) ()).outcome = .ok settings := by
  have agree : ∀ key ∈ fieldNames, AgreeOn [("auto_enable", .string "off")]
      [("x", .integer 1), ("auto_enable", .string "off")] key := by
    simp [fieldNames, AgreeOn, List.lookup_cons]
  have both := readers_agree Plugin.Samples.catalogue (Files.alone dotted) (.ofString "c") ()
  have done : (readNamed (Files.alone braced) (.ofString "c") ()).outcome = .ok ⟨false, none, false, .info⟩ := by
    rw [readNamed_of_hasSection hasSection_braced]
    rfl
  obtain ⟨settings, finished⟩ := (readers_agree Plugin.Samples.catalogue (Files.alone braced) (.ofString "c") ()).1.2
    ⟨_, done, Or.inl rfl⟩
  exact ⟨hasSection_dotted, hasSection_braced, agree, both.2.2.2 _ _ _ hasSection_dotted hasSection_braced agree, _,
    settings, done, rfl, finished⟩

end HintLine.Settings
