import HintLine.Terminal.EchoArea
import Mathlib.Algebra.Order.Ring.Nat

/-!
Line feeds on their way to the terminal. Control sequences have none and take none along, so the echo area writes those
of the texts that it is given, and one of its own at the end.
-/

set_option autoImplicit false

namespace HintLine.Terminal

open HintLine.Echo (Fragment)

/-- How many line feeds a text has. -/
def feeds (s : String) : Nat := s.toList.count '\n'

theorem feeds_append (s t : String) : feeds (s ++ t) = feeds s + feeds t := by
  unfold feeds
  rw [String.toList_append, List.count_append]

/-- How many line feeds some fragments have. -/
def feedsOf (fragments : List Fragment) : Nat := (fragments.map fun f => feeds f.text).sum

theorem feedsOf_cons (f : Fragment) (fragments : List Fragment) :
    feedsOf (f :: fragments) = feeds f.text + feedsOf fragments := rfl

theorem feedsOf_singleton (f : Fragment) : feedsOf [f] = feeds f.text := Nat.add_zero _

theorem feedsOf_append (first second : List Fragment) :
    feedsOf (first ++ second) = feedsOf first + feedsOf second := by
  unfold feedsOf
  rw [List.map_append, List.sum_append]

theorem feeds_eq_zero_iff {s : String} : feeds s = 0 ↔ '\n' ∉ s.toList := List.count_eq_zero

theorem feeds_number (n : Int) : feeds (toString n) = 0 := by
  have digits (m : Nat) : feeds m.repr = 0 := by
    rw [feeds_eq_zero_iff, Nat.toList_repr]
    intro member
    have digit := Nat.isDigit_of_mem_toDigits (by decide) (by decide) member
    revert digit
    decide
  show feeds n.repr = 0
  rw [Int.repr_eq_if]
  split
  · exact digits _
  · rw [feeds_append, digits]
    rfl

namespace Plain

private theorem count_dropWhile {p : Char → Bool} (keeps : p '\n' = false) (s : List Char) :
    (s.dropWhile p).count '\n' = s.count '\n' := by
  induction s with
  | nil => rfl
  | cons c s ih =>
    rw [List.dropWhile_cons]
    split
    next drops =>
      have other : c ≠ '\n' := by
        rintro rfl
        rw [keeps] at drops
        cases drops
      rw [ih, List.count_cons_of_ne other]
    next => rfl

private theorem count_afterSequence? {s rest : List Char} (begins : afterSequence? s = some rest) :
    rest.count '\n' = s.count '\n' := by
  unfold afterSequence? at begins
  split at begins
  next inside =>
    unfold afterBracket? at begins
    have parameters := count_dropWhile (show isParameter '\n' = false by decide) inside
    have intermediates := count_dropWhile (show isIntermediate '\n' = false by decide) (inside.dropWhile isParameter)
    split at begins
    next c after left =>
      split at begins
      next final =>
        obtain rfl := Option.some.inj begins
        have other : c ≠ '\n' := by
          rintro rfl
          revert final
          decide
        rw [left, List.count_cons_of_ne other] at intermediates
        rw [intermediates, parameters, List.count_cons_of_ne (by decide), List.count_cons_of_ne (by decide)]
      next => cases begins
    next => cases begins
  next => cases begins

private theorem count_strip (s : List Char) : (strip s).count '\n' = s.count '\n' := by
  induction s using strip.induct with
  | case1 s rest begins ih =>
    rw [strip]
    split
    next other same =>
      rw [begins] at same
      obtain rfl := Option.some.inj same
      rw [ih, count_afterSequence? begins]
    next none =>
      rw [begins] at none
      cases none
  | case2 =>
    rw [strip]
    rfl
  | case3 c rest none ih =>
    rw [strip]
    split
    next same =>
      rw [none] at same
      cases same
    next => rw [List.count_cons, List.count_cons, ih]

private theorem feeds_shown (colour : Option Bool) (s : String) : feeds (shown colour s) = feeds s := by
  unfold shown
  split
  · rfl
  · unfold text feeds
    rw [String.toList_ofList, count_strip]

end Plain

/-- The sequences that the styles of highlights put in front of a text. -/
private def openings : List String := ["", "\x1b[36m", "\x1b[90m", "\x1b[32m", "\x1b[31m\x1b[1m", "\x1b[7m"]

private theorem opening_standard : ∀ e ∈ Styles.standard, ∃ codes ∈ openings,
    e.2.opening = .ok codes ∧ feeds codes = 0 ∧ feeds e.2.closing = 0 := by
  decide +kernel

private theorem Styles.formatOne_value (f : Fragment) :
    ∃ text, Styles.standard.formatOne f.value = .ok text ∧ feeds text = feeds f.text := by
  let style : Style := (Styles.standard.lookup f.highlight.name).getD []
  have styled : ∃ codes, style.opening = .ok codes ∧ feeds codes = 0 ∧ feeds style.closing = 0 := by
    cases found : Styles.standard.lookup f.highlight.name with
    | none =>
      have plain : style = [] := by
        show (Styles.standard.lookup f.highlight.name).getD [] = []
        rw [found]
        rfl
      rw [plain]
      exact ⟨"", rfl, rfl, rfl⟩
    | some named =>
      have chosen : style = named := by
        show (Styles.standard.lookup f.highlight.name).getD [] = named
        rw [found]
        rfl
      obtain ⟨before, after, listed, -⟩ := List.lookup_eq_some_iff.1 found
      have member : (f.highlight.name, named) ∈ Styles.standard := by
        rw [listed]
        exact List.mem_append_right _ List.mem_cons_self
      obtain ⟨codes, -, rest⟩ := opening_standard _ member
      rw [chosen]
      exact ⟨codes, rest⟩
  obtain ⟨codes, opens, first, last⟩ := styled
  refine ⟨codes ++ f.text ++ style.closing, ?_, ?_⟩
  · have applied : style.apply f.text = .ok (codes ++ f.text ++ style.closing) := by
      unfold Style.apply
      rw [opens]
      rfl
    have chosen : Styles.standard.style (.str f.highlight.name) = .ok style := rfl
    unfold Styles.formatOne Fragment.value
    rw [Value.pair_list]
    dsimp only
    rw [chosen]
    dsimp only
    rw [Value.text_str, applied]
  · rw [feeds_append, feeds_append, first, last, Nat.zero_add, Nat.add_zero]

private theorem Styles.format_values (fragments : List Fragment) :
    ∃ text, Styles.standard.format (fragments.map Fragment.value) = .ok text ∧
      feeds text = feedsOf fragments := by
  induction fragments with
  | nil => exact ⟨"", rfl, rfl⟩
  | cons f fragments ih =>
    obtain ⟨first, formatted, same⟩ := formatOne_value f
    obtain ⟨rest, more, sum⟩ := ih
    refine ⟨first ++ rest, ?_, ?_⟩
    · rw [List.map_cons, Styles.format, formatted, more]
      rfl
    · rw [feeds_append, same, sum, feedsOf_cons]

theorem EchoArea.echo_values {area : EchoArea} (standard : area.styles = .standard) (fragments : List Fragment) :
    ∃ text, feeds text = feedsOf fragments ∧
      EchoArea.echo (fragments.map Fragment.value) area =
        ⟨.ok (), { area with last := fragments.map Fragment.value }, [.out (text ++ "\n")]⟩ := by
  obtain ⟨text, formatted, sum⟩ := Styles.format_values fragments
  refine ⟨area.written text, (Plain.feeds_shown area.colour text).trans sum, ?_⟩
  rw [EchoArea.echo_apply, standard, formatted]

end HintLine.Terminal
