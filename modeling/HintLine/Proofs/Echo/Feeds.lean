import HintLine.Proofs.Echo.Line
import HintLine.Proofs.Hint.Label
import HintLine.Proofs.Terminal.Feeds

/-!
Line feeds in the echo line. The value of a type hint is brought to one line, but a label keeps the line feeds that are
inside it, and so does the line that shows it.
-/

set_option autoImplicit false

namespace HintLine

open HintLine.Terminal (feeds feedsOf)

namespace Label

private theorem feeds_shorten (value : String) : feeds (shorten value) = 0 :=
  Terminal.feeds_eq_zero_iff.2 (isBrief_shorten value).2

end Label

/-- How many line feeds a hint shows: those of its label, as it is trimmed. -/
def Hint.feeds (h : Hint) : Nat := Terminal.feeds (Label.trim h.label)

theorem Hint.feeds_ofInlay (i : Inlay) : (ofInlay i).feeds = Terminal.feeds (Label.trim i.label.text) := rfl

namespace Echo

variable {σ : Type} {scene : Scene σ} (calm : scene.Calm) (line : Int)

include calm

private theorem finds_feeds_content (hint : Hint) :
    (content scene line hint).Finds fun shown => feedsOf shown = hint.feeds := by
  unfold content
  cases hint.isType with
  | false => exact Act.finds_pure (Terminal.feedsOf_singleton _)
  | true =>
    refine (finds_value calm line hint.character).bind fun value brief => Act.finds_pure ?_
    have none : feedsOf (valueFragments value) = 0 := by
      cases value with
      | none => rfl
      | some text =>
        obtain ⟨whole, rfl⟩ := brief text rfl
        rw [valueFragments, Terminal.feedsOf_cons, Label.feeds_shorten, Terminal.feedsOf_singleton]
        rfl
    rw [Terminal.feedsOf_append, none, Terminal.feedsOf_singleton, Nat.zero_add]
    rfl

private theorem finds_feeds_fragmentsFrom (last : Int) {opening : String} (plain : feeds opening = 0)
    (hints : List Hint) :
    (fragmentsFrom scene line last opening hints).Finds fun fs => feedsOf fs = (hints.map Hint.feeds).sum := by
  induction hints generalizing last opening with
  | nil =>
    refine Act.finds_pure ?_
    rw [Terminal.feedsOf_singleton]
    show feeds "]" = 0
    rfl
  | cons hint rest ih =>
    unfold fragmentsFrom
    refine (finds_feeds_content calm line hint).bind fun shown own => ?_
    refine (ih hint.character rfl).bind fun more others => Act.finds_pure ?_
    have first (here : Bool) : feeds (bar opening here).text = 0 := plain
    have blanks : feeds blank.text = 0 := rfl
    rw [List.cons_append, List.cons_append, Terminal.feedsOf_cons, first, Terminal.feedsOf_cons, blanks,
      Terminal.feedsOf_append, own, Terminal.feedsOf_cons, blanks, others]
    simp

theorem finds_feeds_fragments (hints : List Hint) :
    (fragments scene line hints).Finds fun fs => feedsOf fs = (hints.map Hint.feeds).sum :=
  finds_feeds_fragmentsFrom calm line 0 rfl hints

end Echo

end HintLine
