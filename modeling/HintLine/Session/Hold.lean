import HintLine.Session.Basic

/-!
What is shown while the cursor rests: the hints of its line, or nothing.
-/

set_option autoImplicit false

namespace HintLine.Session

/-- The hints of the line that the cursor is in; none where no buffer is current. -/
def currentHints (s : Session) : List Hint :=
  if s.editor.current = .absent then []
  else s.collector.lineHints s.editor.current s.editor.cursor.line

/-- The fragments for the line that the cursor is in. Where there are no hints, nothing is to be shown. -/
def currentFragments : Act Session (List Value) := do
  let s ← Act.get
  match s.currentHints with
  | [] => return []
  | hints =>
    return (← s.display.fragments s.scene s.editor.cursor.line hints).getD []

def hold : Act Session Unit := do onArea (Terminal.EchoArea.echo (← currentFragments))

end HintLine.Session
