import HintLine.Hint.Label
import HintLine.Proofs.Text.Blank

/-!
Labels without their decoration. Servers put a colon before the name of a type and behind the name of a parameter, and
spaces where the text of the document needs them. What is shown of a label is what stands inside all this, and nothing
else of the label is left out.
-/

set_option autoImplicit false

namespace HintLine.Label

open HintLine.Text.Blank (strip IsBlanks IsTight strip_eq_iff)

/-- A colon or nothing. -/
def colon (present : Bool) : List Char := if present then [':'] else []

/-- What may stand around the text of a label: blanks on both sides, and outside of them a colon at either end. -/
structure Decoration where
  opens : Bool
  left : List Char
  right : List Char
  closes : Bool
  left_blank : IsBlanks left
  right_blank : IsBlanks right

namespace Decoration

/-- A text between the blanks of a decoration. -/
def pad (d : Decoration) (text : List Char) : List Char := d.left ++ text ++ d.right

/-- The label that a decoration makes of a text. -/
def around (d : Decoration) (text : List Char) : List Char := colon d.opens ++ d.pad text ++ colon d.closes

private theorem infix_around (d : Decoration) (text : List Char) : text <:+: d.around text :=
  (List.infix_append d.left text d.right).trans (List.infix_append (colon d.opens) (d.pad text) (colon d.closes))

/-- No more could be taken for decoration: no blank is left at the ends of the text, and where a colon is missing there
was none to take. A colon that is all of a label counts as the one in front. -/
structure IsWhole (d : Decoration) (text : List Char) : Prop where
  tight : IsTight text
  opens : d.opens = false → (d.pad text ++ colon d.closes).head? ≠ some ':'
  closes : d.closes = false → (d.pad text).getLast? ≠ some ':'

end Decoration

private theorem dropColon_eq_iff {s rest : List Char} :
    dropColon s = rest ↔ ∃ opens, s = colon opens ++ rest ∧ (opens = false → rest.head? ≠ some ':') := by
  constructor
  · rintro rfl
    fun_cases dropColon s
    case case1 rest => exact ⟨true, rfl, nofun⟩
    case case2 other =>
      refine ⟨false, rfl, fun _ first => ?_⟩
      obtain ⟨rest, shape⟩ := List.head?_eq_some_iff.1 first
      exact other rest shape
  · rintro ⟨opens, rfl, absent⟩
    cases opens with
    | true => rfl
    | false =>
      show dropColon rest = rest
      fun_cases dropColon rest
      case case1 => exact (absent rfl rfl).elim
      case case2 => rfl

private theorem dropLastColon_eq_iff {s rest : List Char} :
    dropLastColon s = rest ↔ ∃ closes, s = rest ++ colon closes ∧ (closes = false → rest.getLast? ≠ some ':') := by
  have turned (closes : Bool) : s.reverse = colon closes ++ rest.reverse ↔ s = rest ++ colon closes := by
    rw [← List.reverse_inj, List.reverse_reverse, List.reverse_append, List.reverse_reverse]
    cases closes <;> rfl
  rw [dropLastColon, List.reverse_eq_iff, dropColon_eq_iff]
  simp only [turned, List.head?_reverse]

private theorem trimmed_enclose {opens closes : Bool} {s : List Char}
    (first : opens = false → (s ++ colon closes).head? ≠ some ':') (last : closes = false → s.getLast? ≠ some ':') :
    trimmed (colon opens ++ s ++ colon closes) = strip s := by
  have front : dropColon (colon opens ++ s ++ colon closes) = s ++ colon closes :=
    dropColon_eq_iff.2 ⟨opens, List.append_assoc .., first⟩
  have back : dropLastColon (s ++ colon closes) = s := dropLastColon_eq_iff.2 ⟨closes, rfl, last⟩
  rw [trimmed, front, back]

private theorem trimmed_colons {s : List Char} (first : s.head? ≠ some ':') (last : s.getLast? ≠ some ':')
    (opens closes : Bool) : trimmed (colon opens ++ s ++ colon closes) = strip s := by
  cases s with
  | nil =>
    -- A colon behind nothing is the one in front.
    cases opens <;> cases closes <;> rfl
  | cons c s => exact trimmed_enclose (fun _ => first) (fun _ => last)

private theorem trimmed_eq_iff {s text : List Char} :
    trimmed s = text ↔ ∃ d : Decoration, d.around text = s ∧ d.IsWhole text := by
  constructor
  · intro result
    obtain ⟨opens, front, noneInFront⟩ := dropColon_eq_iff.1 (rfl : dropColon s = _)
    obtain ⟨closes, back, noneBehind⟩ := dropLastColon_eq_iff.1 (rfl : dropLastColon (dropColon s) = _)
    obtain ⟨tight, left, right, before, after, inside⟩ := strip_eq_iff.1 result
    rw [inside] at back noneBehind
    rw [back] at front noneInFront
    refine ⟨⟨opens, left, right, closes, before, after⟩, ?_, tight, noneInFront, noneBehind⟩
    rw [front, ← List.append_assoc]
    rfl
  · rintro ⟨d, rfl, whole⟩
    rw [Decoration.around, trimmed_enclose whole.opens whole.closes]
    exact strip_eq_iff.2 ⟨whole.tight, d.left, d.right, d.left_blank, d.right_blank, rfl⟩

private theorem trim_eq_iff {label text : String} : trim label = text ↔ trimmed label.toList = text.toList := by
  rw [trim, ← String.toList_inj, String.toList_ofList]

/-- Of colons on both sides of a label one each is taken off, and blanks from the ends of what stands between them. The
same is shown of a text that has no colon at its ends as it is and with a colon on either side. What is shown of any
label is a part of it without blanks at its ends, and the only one around which the label has all of its decoration. -/
theorem trim_decoration (label : String) :
    trim (":" ++ label ++ ":") = String.ofList (strip label.toList) ∧
      (label.toList.head? ≠ some ':' → label.toList.getLast? ≠ some ':' →
        trim label = String.ofList (strip label.toList) ∧
        trim (":" ++ label) = String.ofList (strip label.toList) ∧
        trim (label ++ ":") = String.ofList (strip label.toList)) ∧
      (trim label).toList <:+: label.toList ∧
      IsTight (trim label).toList ∧
      ∀ text : String, trim label = text ↔
        ∃ d : Decoration, d.around text.toList = label.toList ∧ d.IsWhole text.toList := by
  have made (text : String) : trim label = text ↔
      ∃ d : Decoration, d.around text.toList = label.toList ∧ d.IsWhole text.toList :=
    trim_eq_iff.trans trimmed_eq_iff
  obtain ⟨d, whole, all⟩ := (made _).1 rfl
  have colons : ":".toList = colon true := rfl
  refine ⟨?both, fun first last => ⟨?none, ?front, ?back⟩, ?_, all.tight, made⟩
  case both =>
    rw [trim_eq_iff, String.toList_ofList, String.toList_append, String.toList_append, colons]
    exact trimmed_enclose nofun nofun
  case none => simpa [trim_eq_iff, colon] using trimmed_colons first last false false
  case front => simpa [trim_eq_iff, colon] using trimmed_colons first last true false
  case back => simpa [trim_eq_iff, colon] using trimmed_colons first last false true
  · rw [← whole]
    exact d.infix_around _

/-- A colon inside a text stays, and so do the blanks around it. -/
theorem trim_decoration_parted :
    (" a : b ".toList.head? ≠ some ':' ∧ " a : b ".toList.getLast? ≠ some ':') ∧
      trim " a : b " = "a : b" ∧ trim (":" ++ " a : b ") = "a : b" ∧ trim (" a : b " ++ ":") = "a : b" := by
  have bare : " a : b ".toList.head? ≠ some ':' ∧ " a : b ".toList.getLast? ≠ some ':' := by decide
  obtain ⟨-, shown, -⟩ := trim_decoration " a : b "
  exact ⟨bare, shown bare.1 bare.2⟩

/-- Behind blanks a colon is no decoration, and of two colons alone both are. -/
example : trim " :a" = ":a" ∧ trim "::" = "" := by decide

end HintLine.Label
