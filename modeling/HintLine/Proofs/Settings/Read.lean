import HintLine.Command.Run
import HintLine.Plugin.Samples
import HintLine.Proofs.Act

/-!
What reading the settings of a file ends in. A file that is well formed gives settings or a refusal, which a command
reports. There are two ways past that: a table of the settings that is no table, and a display whose module path
begins with a dot.
-/

set_option autoImplicit false

namespace HintLine

theorem Files.find_eq (fs : Files) {p : Path} {text : String} (named : p.text = text) (plain : '\x00' ∉ text.toList) :
    fs.find p = (fs.locate p).mapError (·.error p.text) := by
  have ends : isEndless p.text = false := by
    rw [named]
    simpa [isEndless] using plain
  unfold find
  rw [ends]
  rfl

/-- The file `c` alone, in an otherwise empty file system. -/
def Files.alone (bytes : List UInt8) : Files := ⟨[(["c"], bytes)], [], []⟩

theorem Files.read_alone (bytes : List UInt8) : (alone bytes).read (.ofString "c") = .ok bytes := by
  unfold read
  rw [find_eq (alone bytes) (show (Path.ofString "c").text = "c" from rfl) (by decide)]
  rfl

namespace Text

private theorem pieces_cons_of_ne {separator c : Char} (other : c ≠ separator) (rest : List Char) :
    ∃ p ps, pieces separator (c :: rest) = (c :: p) :: ps := by
  unfold pieces
  rw [if_neg other]
  split
  · exact ⟨[], [], rfl⟩
  · exact ⟨_, _, rfl⟩

private theorem dropLast_pieces_eq_nil_iff (separator : Char) (s : List Char) :
    (pieces separator s).dropLast = [] ↔ separator ∉ s := by
  rw [← List.length_eq_zero_iff, List.length_dropLast, length_pieces, Nat.add_sub_cancel, List.count_eq_zero]

end Text

namespace Log

theorem Level.ofName?_label {l : Level} (named : l ∈ Level.all) : Level.ofName? l.label = some l := by
  revert l
  decide

end Log

namespace Plugin

variable {σ : Type}

/-- A source string whose module path begins with a dot: it begins with a dot itself, and there is another one. -/
def IsRelative (source : String) : Prop := ∃ rest, source.toList = '.' :: rest ∧ '.' ∈ rest

namespace Catalogue

/-- The path of the module that a source string names a member of. -/
def modulePath (source : String) : List String := (segments source).dropLast

private theorem modulePath_eq (source : String) :
    modulePath source = ((Text.pieces '.' source.toList).dropLast).map String.ofList := by
  unfold modulePath segments
  rw [List.map_dropLast]

private theorem intercalate_cons_eq_empty_iff (parts : List String) :
    String.intercalate "." ("" :: parts) = "" ↔ parts = [] := by
  cases parts with
  | nil => exact ⟨fun _ => rfl, fun _ => rfl⟩
  | cons part parts =>
    rw [← String.toList_inj, String.toList_intercalate]
    simp [List.intercalate]

private theorem isRelative_iff (source : String) :
    String.intercalate "." (modulePath source) ≠ "" ∧ (modulePath source).head? = some "" ↔ IsRelative source := by
  unfold IsRelative
  rw [modulePath_eq]
  cases source.toList with
  | nil => simp [Text.pieces]
  | cons c rest =>
    by_cases dot : c = '.'
    · subst dot
      have path : ((Text.pieces '.' ('.' :: rest)).dropLast).map String.ofList =
          "" :: ((Text.pieces '.' rest).dropLast).map String.ofList := by
        rw [Text.pieces, if_pos rfl, List.dropLast_cons_of_ne_nil (Text.pieces_ne_nil _ _)]
        rfl
      rw [path, Ne, intercalate_cons_eq_empty_iff, List.map_eq_nil_iff, Text.dropLast_pieces_eq_nil_iff]
      simp
    · obtain ⟨p, ps, split⟩ := Text.pieces_cons_of_ne dot rest
      rw [split]
      cases ps <;> simp [dot]

private theorem outcome_member (cat : Catalogue) (source : String) (s : σ) :
    (IsRelative source ∧
      (cat.member source s).outcome = .error (.relativeSource (String.intercalate "." (modulePath source)))) ∨
    (¬ IsRelative source ∧
      ((∃ m, (cat.member source s).outcome = .ok m) ∨
        (∃ cause, (cat.member source s).outcome = .error (.missing cause)) ∨
        ∃ e, cat.importPath (modulePath source) = .error e ∧ (cat.member source s).outcome = .error e)) := by
  have relative := isRelative_iff source
  unfold modulePath at relative ⊢
  unfold member
  by_cases empty : String.intercalate "." (segments source).dropLast = ""
  · rw [if_pos empty]
    refine Or.inr ⟨fun r => (relative.2 r).1 empty, Or.inr (Or.inl ⟨_, rfl⟩)⟩
  rw [if_neg empty]
  by_cases dotted : (segments source).dropLast.head? = some ""
  · rw [if_pos dotted]
    exact Or.inl ⟨relative.1 ⟨empty, dotted⟩, rfl⟩
  rw [if_neg dotted]
  refine Or.inr ⟨fun r => dotted (relative.2 r).2, ?_⟩
  cases imported : cat.importPath (segments source).dropLast with
  | error e => exact Or.inr (Or.inr ⟨e, rfl, rfl⟩)
  | ok m =>
    rw [Act.bind_apply_ok (Act.ofExcept_apply _ s)]
    dsimp only
    cases m.members.lookup ((segments source).getLast?.getD "") with
    | some found => exact Or.inl ⟨found, rfl⟩
    | none => exact Or.inr (Or.inl ⟨_, rfl⟩)

end Catalogue

end Plugin

namespace Settings

open HintLine.Plugin (Callable Catalogue IsRelative)

variable {σ : Type}

/-- A document in which the settings, or the table around them, are there and are no table; and the fault for that. -/
inductive Misshapen (document : List (String × Toml.Item)) : Fault → Prop
  | tool {item : Toml.Item} : document.lookup "tool" = some item → (∀ fields, item ≠ .table fields) →
      Misshapen document (.toolShape item.kind)
  | settings {tool : List (String × Toml.Item)} {item : Toml.Item} : document.lookup "tool" = some (.table tool) →
      tool.lookup "echohint" = some item → (∀ fields, item ≠ .table fields) →
      Misshapen document (.sectionShape item.kind)

private theorem section?_eq_error_iff (document : List (String × Toml.Item))
    (e : Fault) : section? document = .error e ↔ Misshapen document e := by
  constructor
  · intro failed
    unfold section? at failed
    split at failed
    next => cases failed
    next tool found =>
      split at failed
      next => cases failed
      next => cases failed
      next item noTable given =>
        obtain rfl := Except.error.inj failed
        exact .settings found given noTable
    next item noTable found =>
      obtain rfl := Except.error.inj failed
      exact .tool found noTable
  · intro misshapen
    unfold section?
    cases misshapen with
    | @tool item found noTable =>
      rw [found]
      cases item with
      | table fields => exact (noTable fields rfl).elim
      | _ => rfl
    | @settings tool item found given noTable =>
      rw [found]
      dsimp only
      rw [given]
      cases item with
      | table fields => exact (noTable fields rfl).elim
      | _ => rfl

/-- The settings of a document are valid, and they name a display. -/
def NamesDisplay (document : List (String × Toml.Item)) (name : String) : Prop :=
  ∃ fields named, section? document = .ok (some fields) ∧ ofFile fields = .ok named ∧ named.display = some name

private theorem namesDisplay_iff {document : List (String × Toml.Item)} {fields : Fields}
    (shape : section? document = .ok (some fields)) (name : String) :
    NamesDisplay document name ↔ ∃ named, ofFile fields = .ok named ∧ named.display = some name := by
  constructor
  · rintro ⟨other, named, given, valid, display⟩
    rw [shape] at given
    cases given
    exact ⟨named, valid, display⟩
  · rintro ⟨named, valid, display⟩
    exact ⟨fields, named, shape, valid, display⟩

private theorem outcome_findDisplay (cat : Catalogue) {name : String}
    (importable : ∀ e, cat.importPath (Catalogue.modulePath name) = .error e → ∃ cause, e = .missing cause) (s : σ) :
    (IsRelative name ∧ ∃ text, (findDisplay cat name s).outcome = .error (.relativeSource text)) ∨
    (¬ IsRelative name ∧ ((∃ display, (findDisplay cat name s).outcome = .ok display) ∨
      ∃ refusal, (findDisplay cat name s).outcome = .error (.refusal refusal))) := by
  unfold findDisplay
  rw [Act.bind_apply_ok (Act.attempt_apply _ s)]
  dsimp only
  rcases cat.outcome_member name s with ⟨relative, ended⟩ | ⟨absolute, ended⟩
  · rw [ended]
    exact Or.inl ⟨relative, _, rfl⟩
  · refine Or.inr ⟨absolute, ?_⟩
    rcases ended with ⟨m, ended⟩ | ⟨cause, ended⟩ | ⟨e, raised, ended⟩
    · rw [ended]
      cases m with
      | callable c => exact Or.inl ⟨c, rfl⟩
      | value | module => exact Or.inr ⟨_, rfl⟩
    · rw [ended]
      exact Or.inr ⟨_, rfl⟩
    · obtain ⟨cause, rfl⟩ := importable e raised
      rw [ended]
      exact Or.inr ⟨_, rfl⟩

/-- Settings with the display that they name. -/
def displayed (cat : Catalogue) (named : Settings String) : Act σ (Settings Callable) := do
  let display ←
    match named.display with
    | none => pure none
    | some name => some <$> findDisplay cat name
  return { named with display }

private theorem level_mem_all {g : Given} {l : Log.Level} (accepted : level g = .ok l) : l ∈ Log.Level.all := by
  unfold level at accepted
  split at accepted
  next s _ =>
    cases named : Log.Level.ofName? s with
    | none =>
      rw [named] at accepted
      cases accepted
    | some l' =>
      rw [named] at accepted
      obtain rfl := Except.ok.inj accepted
      exact List.mem_of_find?_eq_some named
  · cases accepted

private theorem logLevel_mem_ofFields {δ : Type} {model : String} {rule : Given → Except Defect (Option δ)}
    {fields : Fields} {settings : Settings δ} (valid : ofFields model rule fields = .ok settings) :
    settings.logLevel ∈ Log.Level.all := by
  have levelled {l : Log.Level} (found : field fields "log_level" level .info = .ok l) : l ∈ Log.Level.all := by
    unfold field at found
    split at found
    · obtain rfl := Except.ok.inj found
      decide
    next g _ =>
      cases accepted : level g with
      | error d =>
        rw [accepted] at found
        cases found
      | ok l' =>
        rw [accepted] at found
        obtain rfl := Except.ok.inj found
        exact level_mem_all accepted
  unfold ofFields at valid
  dsimp only at valid
  split at valid
  next found =>
    obtain rfl := Except.ok.inj valid
    exact levelled found
  · cases valid

theorem logLevel_mem_readNamed {files : Files} {path : Path} {named : Settings String} {s : σ}
    (done : (readNamed files path s).outcome = .ok named) : named.logLevel ∈ Log.Level.all := by
  unfold readNamed at done
  obtain ⟨-, -, loaded, -⟩ := Act.bind_succeeded done
  obtain ⟨bytes, -, parsed, -⟩ := Act.bind_succeeded loaded
  cases document : Toml.ofBytes? bytes with
  | none =>
    rw [document] at parsed
    cases parsed
  | some tables =>
    rw [document] at parsed
    obtain ⟨fields?, -, valid, -⟩ := Act.bind_succeeded parsed
    cases fields? with
    | none =>
      obtain ⟨-, -, defaults, -⟩ := Act.bind_succeeded valid
      obtain rfl : standard = named := Except.ok.inj defaults
      decide
    | some fields =>
      dsimp only at valid
      cases read : ofFile fields with
      | error report =>
        rw [read] at valid
        cases valid
      | ok settings =>
        rw [read] at valid
        obtain rfl : settings = named := Except.ok.inj valid
        exact logLevel_mem_ofFields read

theorem ofGiven_given {named : Settings String} (levelled : named.logLevel ∈ Log.Level.all)
    (display : Option Callable) : ofGiven (named.given display) = .ok { named with display } := by
  have autoEnable : field (named.given display) "auto_enable" switch true = .ok named.autoEnable := rfl
  have shown : field (named.given display) "display" displayFunction none = .ok display := by cases display <;> rfl
  have notifyErrors : field (named.given display) "notify_errors" switch false = .ok named.notifyErrors := rfl
  have logLevel : field (named.given display) "log_level" level .info = .ok named.logLevel := by
    have accepted : level (.ofValue (.str named.logLevel.label)) = .ok named.logLevel := by
      simp only [level, Given.ofValue, Log.Level.ofName?_label levelled]
    have found : (named.given display).lookup "log_level" = some (.ofValue (.str named.logLevel.label)) := rfl
    rw [field, found]
    dsimp only
    rw [accepted]
  rw [ofGiven, ofFields, autoEnable, shown, notifyErrors, logLevel]

theorem read_some (cat : Catalogue) (files : Files) (path : Path) :
    (read cat files (some path) : Act σ (Settings Callable)) = readNamed files path >>= displayed cat := by
  funext s
  rw [read]
  rcases ran : (readNamed files path : Act σ (Settings String)) s with ⟨e | named, after, trace⟩
  · rw [Act.bind_apply_error ran, Act.bind_apply_error ran]
  · have levelled : named.logLevel ∈ Log.Level.all := logLevel_mem_readNamed (congrArg Run.outcome ran)
    have again : (fun display => Act.ofResult Fault.report (ofGiven (named.given display))) =
        fun display => (pure { named with display } : Act σ (Settings Callable)) := by
      funext display
      rw [ofGiven_given levelled]
      rfl
    rw [Act.bind_apply_ok ran, Act.bind_apply_ok ran, again]
    rfl

private theorem outcome_displayed {cat : Catalogue} {named : Settings String}
    (importable : ∀ name, named.display = some name →
      ∀ e, cat.importPath (Catalogue.modulePath name) = .error e → ∃ cause, e = .missing cause) (s : σ) :
    (∃ name, named.display = some name ∧ IsRelative name ∧
      ∃ text, (displayed cat named s).outcome = .error (.relativeSource text)) ∨
    (∀ name, named.display = some name → ¬ IsRelative name) ∧
      ((∃ settings, (displayed cat named s).outcome = .ok settings) ∨
        ∃ refusal, (displayed cat named s).outcome = .error (.refusal refusal)) := by
  unfold displayed
  cases display : named.display with
  | none => exact Or.inr ⟨nofun, Or.inl ⟨_, rfl⟩⟩
  | some name =>
    have looked := outcome_findDisplay cat (importable name display) s
    dsimp only
    rw [map_eq_pure_bind, bind_assoc]
    rcases ended : findDisplay cat name s with ⟨e | c, last, trace⟩
    · rw [ended] at looked
      rw [Act.bind_apply_error ended]
      rcases looked with ⟨relative, text, is⟩ | ⟨absolute, ⟨_, is⟩ | ⟨refusal, is⟩⟩
      · obtain rfl := Except.error.inj is
        exact Or.inl ⟨name, rfl, relative, text, rfl⟩
      · cases is
      · obtain rfl := Except.error.inj is
        refine Or.inr ⟨?_, Or.inr ⟨refusal, rfl⟩⟩
        rintro _ ⟨⟩
        exact absolute
    · rw [ended] at looked
      rw [Act.bind_apply_ok ended]
      rcases looked with ⟨-, text, is⟩ | ⟨absolute, -⟩
      · cases is
      · refine Or.inr ⟨?_, Or.inl ⟨_, rfl⟩⟩
        rintro _ ⟨⟩
        exact absolute

section Read

variable {files : Files} {path : Path} {bytes : List UInt8} {document : List (String × Toml.Item)}
  (found : files.read path = .ok bytes) (wellFormed : Toml.ofBytes? bytes = some document)

include found wellFormed

private theorem outcome_readNamed (s : σ) :
    (∃ e, Misshapen document e ∧ (readNamed files path s).outcome = .error e) ∨
    (∀ e, ¬ Misshapen document e) ∧
      ((∃ refusal, (readNamed files path s).outcome = .error (.refusal refusal) ∧
          ∀ name, ¬ NamesDisplay document name) ∨
        ∃ named, (readNamed files path s).outcome = .ok named ∧
          ∀ name, NamesDisplay document name ↔ named.display = some name) := by
  unfold readNamed
  rw [Act.bind_apply_ok (Act.log_apply _ _ s), found]
  dsimp only
  rw [Act.bind_apply_ok (Act.ofResult_ok_apply _ _ s)]
  dsimp only
  rw [wellFormed]
  dsimp only
  cases shape : section? document with
  | error e => exact Or.inl ⟨e, (section?_eq_error_iff document e).1 shape, rfl⟩
  | ok fields? =>
    have shaped : ∀ e, ¬ Misshapen document e := by
      intro e misshapen
      rw [(section?_eq_error_iff document e).2 misshapen] at shape
      cases shape
    rw [Act.bind_apply_ok (Act.ofExcept_apply _ s)]
    refine Or.inr ⟨shaped, ?_⟩
    cases fields? with
    | none =>
      refine Or.inr ⟨standard, rfl, ?_⟩
      intro name
      constructor
      · rintro ⟨fields, named, given, -⟩
        rw [shape] at given
        cases given
      · rintro ⟨⟩
    | some fields =>
      have names := namesDisplay_iff shape
      dsimp only
      cases valid : ofFile fields with
      | error report =>
        rw [valid] at names
        refine Or.inl ⟨_, rfl, ?_⟩
        intro name given
        obtain ⟨named, fine, -⟩ := (names name).1 given
        cases fine
      | ok named =>
        rw [valid] at names
        refine Or.inr ⟨named, rfl, ?_⟩
        intro name
        rw [names]
        constructor
        · rintro ⟨_, ⟨⟩, display⟩
          exact display
        · intro display
          exact ⟨named, rfl, display⟩

/-- What reading the settings of a file ends in: settings or a refusal, unless the document is misshapen or its display
is relative. -/
private theorem outcome_read {cat : Catalogue}
    (importable : ∀ name, NamesDisplay document name →
      ∀ e, cat.importPath (Catalogue.modulePath name) = .error e → ∃ cause, e = .missing cause) (s : σ) :
    (∃ e, Misshapen document e ∧ (read cat files (some path) s).outcome = .error e) ∨
    (∀ e, ¬ Misshapen document e) ∧
      ((∃ name, NamesDisplay document name ∧ IsRelative name ∧
          ∃ text, (read cat files (some path) s).outcome = .error (.relativeSource text)) ∨
        (∀ name, NamesDisplay document name → ¬ IsRelative name) ∧
          ((∃ settings, (read cat files (some path) s).outcome = .ok settings) ∨
            ∃ refusal, (read cat files (some path) s).outcome = .error (.refusal refusal))) := by
  have first := outcome_readNamed found wellFormed s
  rw [read_some]
  rcases ran : (readNamed files path : Act σ (Settings String)) s with ⟨e | named, after, trace⟩
  · rw [ran] at first
    rw [Act.bind_apply_error ran]
    rcases first with ⟨e', misshapen, ended⟩ | ⟨shaped, ⟨refusal, ended, none⟩ | ⟨named, ended, -⟩⟩
    · obtain rfl := Except.error.inj ended
      exact Or.inl ⟨e, misshapen, rfl⟩
    · obtain rfl := Except.error.inj ended
      exact Or.inr ⟨shaped, Or.inr ⟨fun name names => (none name names).elim, Or.inr ⟨refusal, rfl⟩⟩⟩
    · cases ended
  · rw [ran] at first
    rw [Act.bind_apply_ok ran]
    rcases first with ⟨e', -, ended⟩ | ⟨shaped, ⟨refusal, ended, -⟩ | ⟨named', ended, names⟩⟩
    · cases ended
    · cases ended
    obtain rfl := Except.ok.inj ended
    have shown := outcome_displayed (fun name display => importable name ((names name).2 display)) after
    refine Or.inr ⟨shaped, ?_⟩
    rcases shown with ⟨name, display, relative, text, ended⟩ | ⟨absolute, ended⟩
    · exact Or.inl ⟨name, (names name).2 display, relative, text, ended⟩
    · exact Or.inr ⟨fun name given => absolute name ((names name).1 given), ended⟩

end Read

/-- The ways in which reading settings may end: there they are, or they are refused. -/
def Settled (o : Except Fault (Settings Callable)) : Prop :=
  (∃ settings, o = .ok settings) ∨ ∃ refusal, o = .error (.refusal refusal)

private theorem run_of_refusal {cat : Catalogue} {files : Files} {inv : Command.Invocation} {refusal : Refusal}
    (refused : (read cat files (inv.config.map Path.ofString) files).outcome = .error (.refusal refusal))
    (server : Client.Server) (colour : Option Bool) (verb : Command.Verb) :
    let r := read cat files (inv.config.map Path.ofString) files
    Command.run cat server colour verb inv files =
      ⟨.ok .refusal, r.state, r.trace ++ [.err (Terminal.Plain.shown colour s!"Error: {refusal.message}\n")]⟩ := by
  dsimp only
  rcases ran : read cat files (inv.config.map Path.ofString) files with ⟨outcome, state, trace⟩
  rw [ran] at refused
  obtain rfl : outcome = .error (.refusal refusal) := refused
  have prepared : Command.prepare cat inv files = ⟨.error (.refusal refusal), state, trace⟩ := by
    have got : (Act.get : Act Files Files) files = ⟨.ok files, files, []⟩ := rfl
    unfold Command.prepare
    rw [Act.bind_apply_ok got]
    dsimp only
    rw [Act.bind_apply_error ran]
    rfl
  unfold Command.run
  rw [Act.bind_apply_ok (Act.attempt_apply _ files), prepared]
  rfl

/-- Reading the settings of a well-formed file gives settings or a refusal just if the tables they stand in are tables
and the module path of their display does not begin with a dot. Otherwise it ends in one of two faults of another kind.
A refusal is what a command ends with. -/
theorem settled_iff {cat : Catalogue} {files : Files} {path : Path} {bytes : List UInt8}
    {document : List (String × Toml.Item)} (found : files.read path = .ok bytes)
    (wellFormed : Toml.ofBytes? bytes = some document)
    (importable : ∀ name, NamesDisplay document name →
      ∀ e, cat.importPath (Catalogue.modulePath name) = .error e → ∃ cause, e = .missing cause) :
    let r := read cat files (some path) files
    (Settled r.outcome ↔
      (∀ e, ¬ Misshapen document e) ∧ ∀ name, NamesDisplay document name → ¬ IsRelative name) ∧
    (∀ e, Misshapen document e → r.outcome = .error e) ∧
    (∀ name, NamesDisplay document name → IsRelative name → ∃ text, r.outcome = .error (.relativeSource text)) ∧
    ∀ refusal, r.outcome = .error (.refusal refusal) → ∀ server colour verb inv,
      inv.config.map Path.ofString = some path →
        Command.run cat server colour verb inv files =
          ⟨.ok .refusal, r.state, r.trace ++ [.err (Terminal.Plain.shown colour s!"Error: {refusal.message}\n")]⟩ := by
  dsimp only
  refine ⟨?settled, ?misshapen, ?relative, ?reported⟩
  case reported =>
    intro refusal refused server colour verb inv configured
    have refused' : (read cat files (inv.config.map Path.ofString) files).outcome = .error (.refusal refusal) := by
      rw [configured, refused]
    have ran := run_of_refusal refused' server colour verb
    rwa [configured] at ran
  all_goals rcases outcome_read found wellFormed importable files with
    ⟨e, misshapen, ended⟩ | ⟨shaped, ⟨name, names, relative, text, ended⟩ | ⟨absolute, ended⟩⟩
  case settled.inl =>
    rw [ended]
    refine ⟨?_, fun fine => (fine.1 e misshapen).elim⟩
    rintro (⟨settings, is⟩ | ⟨refusal, is⟩)
    · cases is
    · obtain rfl := Except.error.inj is
      cases misshapen
  case settled.inr.inl =>
    rw [ended]
    refine ⟨?_, fun fine => (fine.2 name names relative).elim⟩
    rintro (⟨settings, is⟩ | ⟨refusal, is⟩) <;> cases is
  case settled.inr.inr => exact ⟨fun _ => ⟨shaped, absolute⟩, fun _ => ended⟩
  case misshapen.inl =>
    intro e' misshapen'
    have one := (section?_eq_error_iff document e).2 misshapen
    rw [(section?_eq_error_iff document e').2 misshapen'] at one
    rw [ended, Except.error.inj one]
  case misshapen.inr.inl => exact fun e misshapen => (shaped e misshapen).elim
  case misshapen.inr.inr => exact fun e misshapen => (shaped e misshapen).elim
  case relative.inl =>
    rintro name ⟨fields, named, given, -, -⟩ -
    rw [(section?_eq_error_iff document e).2 misshapen] at given
    cases given
  case relative.inr.inl => exact fun _ _ _ => ⟨text, ended⟩
  case relative.inr.inr => exact fun name names relative => (absolute name names relative).elim

private def displaying (name : String) : List (String × Toml.Item) :=
  [("tool", .table [("echohint", .table [("display", .string name)])])]

private theorem namesDisplay_displaying {name other : String} (names : NamesDisplay (displaying name) other) :
    other = name := by
  obtain ⟨fields, named, given, valid, display⟩ := names
  obtain rfl := Option.some.inj (Except.ok.inj given)
  obtain rfl := Except.ok.inj valid
  exact (Option.some.inj display).symm

/-- The line `tool.echohint.display="plug..y"`. -/
private def absent : List UInt8 :=
  [116, 111, 111, 108, 46, 101, 99, 104, 111, 104, 105, 110, 116, 46, 100, 105, 115, 112, 108, 97, 121, 61, 34, 112,
   108, 117, 103, 46, 46, 121, 34]

theorem settled_iff_refused :
    let r := read Plugin.Samples.catalogue (Files.alone absent) (some (.ofString "c")) (Files.alone absent)
    (Files.alone absent).read (.ofString "c") = .ok absent ∧ Toml.ofBytes? absent = some (displaying "plug..y") ∧
      (∀ name, NamesDisplay (displaying "plug..y") name →
        ∀ e, Plugin.Samples.catalogue.importPath (Catalogue.modulePath name) = .error e → ∃ cause, e = .missing cause) ∧
      (∀ e, ¬ Misshapen (displaying "plug..y") e) ∧
      (∀ name, NamesDisplay (displaying "plug..y") name → ¬ IsRelative name) ∧ Settled r.outcome ∧
      r.outcome = .error (.refusal (.displayNotFound "plug..y" (.noModule "plug."))) := by
  have importable : ∀ name, NamesDisplay (displaying "plug..y") name →
      ∀ e, Plugin.Samples.catalogue.importPath (Catalogue.modulePath name) = .error e →
        ∃ cause, e = .missing cause := by
    intro name names e raised
    obtain rfl := namesDisplay_displaying names
    exact ⟨.noModule "plug.", (Except.error.inj raised).symm⟩
  have refused :
      (read Plugin.Samples.catalogue (Files.alone absent) (some (.ofString "c")) (Files.alone absent)).outcome =
        .error (.refusal (.displayNotFound "plug..y" (.noModule "plug."))) := by
    unfold read readNamed
    dsimp only
    rw [Files.read_alone]
    rfl
  have parsed : Toml.ofBytes? absent = some (displaying "plug..y") := rfl
  have ends := settled_iff (Files.read_alone absent) parsed importable
  have shaped : ∀ e, ¬ Misshapen (displaying "plug..y") e := by
    intro e misshapen
    cases (section?_eq_error_iff _ e).2 misshapen
  have absolute : ∀ name, NamesDisplay (displaying "plug..y") name → ¬ IsRelative name := by
    rintro name names ⟨rest, start, -⟩
    obtain rfl := namesDisplay_displaying names
    cases start
  exact ⟨Files.read_alone absent, parsed, importable, shaped, absolute, ends.1.2 ⟨shaped, absolute⟩, refused⟩

/-- The line `tool.echohint.display=".x.y"`. -/
private def relative : List UInt8 :=
  [116, 111, 111, 108, 46, 101, 99, 104, 111, 104, 105, 110, 116, 46, 100, 105, 115, 112, 108, 97, 121, 61, 34, 46,
   120, 46, 121, 34]

/-- A display whose module path begins with a dot ends reading in a fault that is no refusal, whereas one with a module
path that has an empty part further behind is refused. -/
theorem unsettled_of_relative_display :
    let r := read Plugin.Samples.catalogue (Files.alone relative) (some (.ofString "c")) (Files.alone relative)
    (Files.alone relative).read (.ofString "c") = .ok relative ∧ Toml.ofBytes? relative = some (displaying ".x.y") ∧
      (∀ name, NamesDisplay (displaying ".x.y") name →
        ∀ e, Plugin.Samples.catalogue.importPath (Catalogue.modulePath name) = .error e → ∃ cause, e = .missing cause) ∧
      r.outcome = .error (.relativeSource ".x") ∧ ¬ Settled r.outcome := by
  have ended :
      (read Plugin.Samples.catalogue (Files.alone relative) (some (.ofString "c")) (Files.alone relative)).outcome =
        .error (.relativeSource ".x") := by
    unfold read readNamed
    dsimp only
    rw [Files.read_alone]
    rfl
  refine ⟨Files.read_alone relative, rfl, ?_, ended, ?_⟩
  · intro name names e raised
    obtain rfl := namesDisplay_displaying names
    exact ⟨.noModule "", (Except.error.inj raised).symm⟩
  · rw [ended]
    rintro (⟨settings, is⟩ | ⟨refusal, is⟩) <;> cases is

end Settings

end HintLine
