import HintLine.Terminal.EchoArea
import Mathlib.Data.List.Forall2

/-!
What is left of a styled text where no colour is wanted. A style puts complete control sequences around a text and
nothing else, and taking control sequences out takes out just those: a sequence ends with its letter, whatever stands
behind it, and no sequence begins inside a text without escape characters. So the styles never show in what the echo
area writes, unless one of them cannot be applied; then nothing is written.
-/

set_option autoImplicit false

namespace HintLine.Terminal

namespace Plain

/-- Between the bracket of a control sequence and its letter: characters of parameters. -/
def IsCode (code : String) : Prop := ∀ c ∈ code.toList, isParameter c = true

instance (code : String) : Decidable (IsCode code) :=
  decidable_of_iff (code.toList.all isParameter = true) List.all_eq_true

private theorem IsCode.append {first second : String} (hf : IsCode first) (hs : IsCode second) :
    IsCode (first ++ second) := by
  intro c member
  rw [String.toList_append, List.mem_append] at member
  exact member.elim (hf c) (hs c)

private theorem isCode_number (n : Nat) : IsCode (toString n) := by
  intro c member
  have digit : c.isDigit = true := by
    change c ∈ n.repr.toList at member
    rw [Nat.toList_repr] at member
    exact Nat.isDigit_of_mem_toDigits (by decide) (by decide) member
  simp only [Char.isDigit, Bool.and_eq_true, decide_eq_true_eq, ge_iff_le, UInt32.le_iff_toNat_le] at digit
  simp only [isParameter, isWithin, Bool.and_eq_true, decide_eq_true_eq]
  change 48 ≤ c.toNat ∧ c.toNat ≤ 57 at digit
  omega

/-- Texts that consist of control sequences. -/
inductive Sequences : String → Prop
  | none : Sequences ""
  | more {code rest : String} : IsCode code → Sequences rest → Sequences (sequence code ++ rest)

private theorem Sequences.append {first second : String} (hf : Sequences first) (hs : Sequences second) :
    Sequences (first ++ second) := by
  induction hf with
  | none => simpa using hs
  | more code _ ih =>
    rw [String.append_assoc]
    exact .more code ih

private theorem sequences_sequence {code : String} (hc : IsCode code) : Sequences (sequence code) := by
  simpa using Sequences.more hc .none

private theorem sequences_join {parts : List String} (all : ∀ p ∈ parts, Sequences p) :
    Sequences (String.join parts) := by
  induction parts with
  | nil => exact .none
  | cons p parts ih =>
    rw [String.join_cons]
    exact (all p List.mem_cons_self).append (ih fun q member => all q (List.mem_cons_of_mem p member))

private theorem dropWhile_code {code : List Char} (parameters : ∀ c ∈ code, isParameter c = true)
    (rest : List Char) : (code ++ 'm' :: rest).dropWhile isParameter = 'm' :: rest := by
  induction code with
  | nil => rfl
  | cons c code ih =>
    rw [List.cons_append, List.dropWhile_cons_of_pos (parameters c List.mem_cons_self)]
    exact ih fun d member => parameters d (List.mem_cons_of_mem c member)

private theorem strip_sequence {code : String} (hc : IsCode code) (rest : List Char) :
    strip ((sequence code).toList ++ rest) = strip rest := by
  have shape : (sequence code).toList ++ rest = '\x1b' :: '[' :: (code.toList ++ 'm' :: rest) := by
    simp [sequence]
  have ends : afterSequence? ('\x1b' :: '[' :: (code.toList ++ 'm' :: rest)) = some rest := by
    rw [afterSequence?, afterBracket?, dropWhile_code hc]
    rfl
  rw [shape, strip]
  split
  next after found =>
    rw [ends] at found
    rw [Option.some.inj found]
  next missing =>
    rw [ends] at missing
    cases missing

private theorem strip_sequences {s : String} (hs : Sequences s) (rest : List Char) :
    strip (s.toList ++ rest) = strip rest := by
  induction hs with
  | none => rfl
  | more code _ ih => rw [String.toList_append, List.append_assoc, strip_sequence code, ih]

/-- No control sequence begins inside a text without escape characters. -/
private theorem strip_append {s : List Char} (plain : '\x1b' ∉ s) (rest : List Char) :
    strip (s ++ rest) = s ++ strip rest := by
  induction s with
  | nil => rfl
  | cons c s ih =>
    rw [List.mem_cons, not_or] at plain
    have begins : afterSequence? (c :: (s ++ rest)) = none := by
      unfold afterSequence?
      split
      next same => exact absurd (List.cons.inj same).1.symm plain.1
      next => rfl
    rw [List.cons_append, strip]
    split
    next found =>
      rw [begins] at found
      cases found
    next =>
      dsimp only
      rw [ih plain.2, List.cons_append]

end Plain

open Plain (IsCode Sequences)

private theorem isCode_of_colourCode? {shift : Nat} {v : Value} {code : String}
    (known : colourCode? shift v = some code) : IsCode code := by
  unfold colourCode? at known
  split at known
  next name =>
    obtain ⟨n, -, rfl⟩ := Option.map_eq_some_iff.1 known
    exact Plain.isCode_number _
  next n =>
    obtain ⟨b, -, rfl⟩ := Option.map_eq_some_iff.1 known
    exact ((Plain.isCode_number _).append (by decide)).append (Plain.isCode_number _)
  next r g b =>
    split at known
    next red green blue _ _ _ =>
      obtain rfl := Option.some.inj known
      have semicolon : IsCode ";" := by decide
      exact ((((((Plain.isCode_number _).append (show IsCode ";2;" by decide)).append (Plain.isCode_number red)).append
        semicolon).append (Plain.isCode_number green)).append semicolon).append (Plain.isCode_number blue)
    next => cases known
  next => cases known

private theorem sequences_of_colourSequence {shift : Nat} {v : Value} {s : String}
    (fine : colourSequence shift v = .ok s) : Sequences s := by
  unfold colourSequence at fine
  split at fine
  next =>
    obtain rfl := Except.ok.inj fine
    exact .none
  next =>
    split at fine
    next code known =>
      obtain rfl := Except.ok.inj fine
      exact Plain.sequences_sequence (isCode_of_colourCode? known)
    next => cases fine

private theorem sequences_switchSequence (on off : Nat) (v : Value) : Sequences (switchSequence on off v) := by
  unfold switchSequence
  split
  · exact .none
  · exact Plain.sequences_sequence (Plain.isCode_number _)

namespace Style

private theorem sequences_of_opening {style : Style} {s : String} (fine : style.opening = .ok s) : Sequences s := by
  unfold opening at fine
  cases checked : style.check with
  | error e =>
    rw [checked] at fine
    cases fine
  | ok =>
    cases fg : colourSequence 0 (style.argument "fg") with
    | error e =>
      rw [checked, fg] at fine
      cases fine
    | ok foreground =>
      cases bg : colourSequence 10 (style.argument "bg") with
      | error e =>
        rw [checked, fg, bg] at fine
        cases fine
      | ok background =>
        rw [checked, fg, bg] at fine
        obtain rfl := Except.ok.inj fine
        refine ((sequences_of_colourSequence fg).append (sequences_of_colourSequence bg)).append
          (Plain.sequences_join ?_)
        intro p member
        obtain ⟨⟨name, on, off⟩, -, rfl⟩ := List.mem_map.1 member
        exact sequences_switchSequence on off _

private theorem sequences_closing (style : Style) : Sequences style.closing := by
  unfold closing
  split
  · exact Plain.sequences_sequence (by decide)
  · exact .none

private theorem apply_eq {style : Style} {text s : String} (fine : style.apply text = .ok s) :
    ∃ codes, Sequences codes ∧ s = codes ++ text ++ style.closing := by
  unfold apply at fine
  cases opened : style.opening with
  | error e =>
    rw [opened] at fine
    cases fine
  | ok codes =>
    rw [opened] at fine
    exact ⟨codes, sequences_of_opening opened, (Except.ok.inj fine).symm⟩

end Style

/-- A fragment whose text is a given one, without escape characters. -/
def Bears (fragment : Value) (text : String) : Prop :=
  '\x1b' ∉ text.toList ∧ ∃ highlight, fragment.pair = .ok (.str text, highlight)

namespace Styles

variable {styles : Styles}

private theorem formatOne_eq {fragment : Value} {text s : String} (bears : Bears fragment text)
    (fine : styles.formatOne fragment = .ok s) :
    ∃ before after, Sequences before ∧ Sequences after ∧ s = before ++ text ++ after := by
  obtain ⟨-, highlight, shape⟩ := bears
  unfold formatOne at fine
  rw [shape] at fine
  dsimp only at fine
  cases styled : styles.style highlight with
  | error e =>
    rw [styled] at fine
    cases fine
  | ok style =>
    rw [styled] at fine
    dsimp only at fine
    cases applied : style.apply (Value.str text).text with
    | error e =>
      rw [applied] at fine
      cases fine
    | ok t =>
      rw [applied] at fine
      obtain rfl := Except.ok.inj fine
      obtain ⟨codes, opening, rfl⟩ := Style.apply_eq applied
      exact ⟨codes, style.closing, opening, style.sequences_closing, rfl⟩

private theorem format_append (styles : Styles) (first second : List Value) : styles.format (first ++ second) =
    do return (← styles.format first) ++ (← styles.format second) := by
  induction first with
  | nil => cases formatted : styles.format second <;> exact formatted
  | cons f first ih =>
    rw [List.cons_append, format, format, ih]
    cases styles.formatOne f with
    | error e => rfl
    | ok s =>
      cases styles.format first with
      | error e => rfl
      | ok t =>
        cases styles.format second with
        | error e => rfl
        | ok u => exact congrArg Except.ok String.append_assoc.symm

private theorem format_cons_ok {f : Value} {fragments : List Value} {s : String}
    (fine : styles.format (f :: fragments) = .ok s) :
    ∃ first rest, styles.formatOne f = .ok first ∧ styles.format fragments = .ok rest ∧ s = first ++ rest := by
  rw [format] at fine
  cases one : styles.formatOne f with
  | error e =>
    rw [one] at fine
    cases fine
  | ok first =>
    rw [one] at fine
    cases more : styles.format fragments with
    | error e =>
      rw [more] at fine
      cases fine
    | ok rest =>
      rw [more] at fine
      exact ⟨first, rest, rfl, rfl, (Except.ok.inj fine).symm⟩

private theorem exists_format_iff (styles : Styles) (fragments : List Value) :
    (∃ s, styles.format fragments = .ok s) ↔ ∀ f ∈ fragments, ∃ s, styles.formatOne f = .ok s := by
  induction fragments with
  | nil => exact ⟨fun _ f member => absurd member List.not_mem_nil, fun _ => ⟨"", rfl⟩⟩
  | cons f fragments ih =>
    rw [List.forall_mem_cons, ← ih]
    constructor
    · rintro ⟨s, fine⟩
      obtain ⟨first, rest, one, more, -⟩ := format_cons_ok fine
      exact ⟨⟨first, one⟩, rest, more⟩
    · rintro ⟨⟨first, one⟩, rest, more⟩
      refine ⟨first ++ rest, ?_⟩
      rw [format, one, more]
      rfl

private theorem text_format {fragments : List Value} {texts : List String} (bear : List.Forall₂ Bears fragments texts)
    {s : String} (fine : styles.format fragments = .ok s) : Plain.text s = String.join texts := by
  have stripped : Plain.strip s.toList = (String.join texts).toList := by
    induction bear generalizing s with
    | nil =>
      obtain rfl := Except.ok.inj fine
      change Plain.strip [] = []
      rw [Plain.strip]
      rfl
    | @cons f t fragments texts bears _ ih =>
      obtain ⟨first, rest, one, more, rfl⟩ := format_cons_ok fine
      obtain ⟨before, after, opens, closes, rfl⟩ := formatOne_eq bears one
      simp only [String.toList_append, List.append_assoc, String.join_cons]
      rw [Plain.strip_sequences opens, Plain.strip_append bears.1, Plain.strip_sequences closes, ih more]
  rw [Plain.text, stripped, String.ofList_toList]

end Styles

namespace EchoArea

/-- Where no colour is wanted, the echo area writes nothing at all if a fragment cannot be formatted, and otherwise one
line: the texts of the fragments if these have no escape characters, whatever their styles. Two lists of fragments are
formatted together as one after the other. -/
theorem echo_plain {area : EchoArea} (plain : area.colour ≠ some true) (fragments : List Value) :
    let r := echo fragments area
    ((∃ f ∈ fragments, ∃ e, area.styles.formatOne f = .error e) →
      (∃ e, area.styles.format fragments = .error e ∧ r.outcome = .error e) ∧ r.trace = []) ∧
    ((∀ f ∈ fragments, ∃ s, area.styles.formatOne f = .ok s) →
      r.outcome = .ok () ∧ (∃ line, r.trace = [.out (line ++ "\n")]) ∧
        ∀ texts, List.Forall₂ Bears fragments texts → r.trace = [.out (String.join texts ++ "\n")]) ∧
    ∀ more, area.styles.format (fragments ++ more) =
      do return (← area.styles.format fragments) ++ (← area.styles.format more) := by
  dsimp only
  rw [echo_apply]
  have formats := area.styles.exists_format_iff fragments
  refine ⟨?fails, ?succeeds, area.styles.format_append fragments⟩
  case fails =>
    rintro ⟨f, member, e, fails⟩
    cases formatted : area.styles.format fragments with
    | error e' => exact ⟨⟨e', rfl, rfl⟩, rfl⟩
    | ok s =>
      obtain ⟨t, fine⟩ := formats.1 ⟨s, formatted⟩ f member
      rw [fails] at fine
      cases fine
  case succeeds =>
    intro all
    obtain ⟨s, formatted⟩ := formats.2 all
    rw [formatted]
    refine ⟨rfl, ⟨_, rfl⟩, ?_⟩
    intro texts bear
    have written : area.written s = String.join texts := by
      rw [EchoArea.written, Plain.shown, if_neg plain, Styles.text_format bear formatted]
    dsimp only
    rw [written]

/-- Two styles: one with colours of two forms, which does not reset them, and one with a switch turned off. -/
private def mixed : EchoArea :=
  .new [("A", [("fg", .int 196), ("bg", .list [.int 1, .int 2, .int 3]), ("reset", .bool false)]),
    ("B", [("fg", .str "white"), ("bold", .bool false)])] none

theorem echo_plain_mixed :
    let fragments : List Value :=
      [.list [.str "3m", .str "A"], .list [.str "[0m", .str "B"], .str "5C", .list [.str ";", .null]]
    mixed.colour ≠ some true ∧ (∀ f ∈ fragments, ∃ s, mixed.styles.formatOne f = .ok s) ∧
      List.Forall₂ Bears fragments ["3m", "[0m", "5", ";"] ∧
      mixed.styles.format fragments =
        .ok "\x1b[38;5;196m\x1b[48;2;1;2;3m3m\x1b[37m\x1b[22m[0m\x1b[0m5\x1b[0m;\x1b[0m" ∧
      (echo fragments mixed).trace = [.out "3m[0m5;\n"] := by
  have fine : ∀ f ∈ ([.list [.str "3m", .str "A"], .list [.str "[0m", .str "B"], .str "5C",
      .list [.str ";", .null]] : List Value), ∃ s, mixed.styles.formatOne f = .ok s := by
    simp only [List.forall_mem_cons]
    exact ⟨⟨_, rfl⟩, ⟨_, rfl⟩, ⟨_, rfl⟩, ⟨_, rfl⟩, nofun⟩
  have bear : List.Forall₂ Bears [.list [.str "3m", .str "A"], .list [.str "[0m", .str "B"], .str "5C",
      .list [.str ";", .null]] ["3m", "[0m", "5", ";"] :=
    .cons ⟨by decide, _, rfl⟩ (.cons ⟨by decide, _, rfl⟩ (.cons ⟨by decide, _, rfl⟩ (.cons ⟨by decide, _, rfl⟩ .nil)))
  have plain : mixed.colour ≠ some true := nofun
  exact ⟨plain, fine, bear, rfl, ((echo_plain plain _).2.1 fine).2.2 _ bear⟩

end EchoArea

end HintLine.Terminal
