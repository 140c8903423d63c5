import HintLine.Proofs.Command.Ask
import HintLine.Proofs.Command.CleanUp
import HintLine.Proofs.Session.Akin

/-!
The stages of a command, run side by side in sessions that are akin: what leads up to the conversation with the server,
waiting for it, presenting what it has answered, and cleaning up. Each goes in step with itself, as far as it does not
depend on what the two sessions differ in.
-/

set_option autoImplicit false

namespace HintLine.Command

open HintLine.Client (Answer Server)
open HintLine.Plugin (Callable Catalogue)
open Session (Akin)

variable {sees : Effect → Bool} {P : Settings Callable → Settings Callable → Prop}

theorem akin_new {first second : Settings Callable} (may : P first second) (files : Files) (colour : Option Bool)
    (parses : Bool) :
    Akin P (.new first files (.new .standard colour) parses) (.new second files (.new .standard colour) parses) :=
  ⟨rfl, second, .start, [], may, rfl⟩

theorem inStep_cleanUp (buffer : Ident) : Act.InStep sees (Akin P) (cleanUp buffer) (cleanUp buffer) :=
  (Session.inStep_closeBuffer buffer).bind fun _ => Session.inStep_stop.bind fun _ => Session.inStep_silence

section Logs

variable (logs : ∀ r, sees (.log r) = false)

include logs

theorem inStep_lead (inv : Invocation) (server : Server) :
    Act.InStep sees (Akin P) (lead inv server) (lead inv server) := by
  have announced : Act.InStep sees (Akin P) Session.announce Session.announce := by
    refine Act.inStep_get_bind fun s t _ => Act.inStep_emits ?_
    simp [logs]
  unfold lead
  refine announced.bind fun _ => (Session.inStep_onFiles _).bind fun text => ?_
  refine (Session.inStep_openBuffer _ _ _).bind fun b => Act.inStep_get_bind ?_
  rintro s _ ⟨styles, settings, cursor, last, may, rfl⟩
  exact (Session.inStep_start _ _ _ _).bind fun _ => Act.inStep_pure _

variable (reports : ∀ a b, P a b → a.notifyErrors = b.notifyErrors ∨ ∀ text, sees (.err text) = false)

include reports

theorem inStep_await (answer : Answer) : Act.InStep sees (Akin P) (await answer) (await answer) := by
  unfold await
  refine Act.inStep_get_bind ?_
  rintro s _ ⟨styles, settings, cursor, last, may, rfl⟩
  exact Session.inStep_wait logs reports _

end Logs

theorem inStep_present (displays : ∀ a b, P a b → a.display = b.display) (verb : Verb) (inv : Invocation)
    (buffer : Ident) : Act.InStep sees (Akin P) (present verb inv buffer) (present verb inv buffer) := by
  cases verb with
  | «show» => exact Session.inStep_showing displays _
  | hints =>
    refine Act.inStep_get_bind ?_
    rintro s _ ⟨styles, settings, cursor, last, may, rfl⟩
    exact Act.inStep_forEach (fun n => (Act.inStep_emit _).bind fun _ => Session.inStep_showing displays _) _

theorem inStep_work {cat : Catalogue} {server : Server} {colour : Option Bool} {first second : Settings Callable}
    {verb : Verb} {inv : Invocation}
    (conducts : ∀ files parses,
      (conduct verb inv server (.new first files (.new .standard colour) parses)).InStep sees (Akin P)
        (conduct verb inv server (.new second files (.new .standard colour) parses))) :
    Act.InStep sees Eq (work cat server colour first verb inv) (work cat server colour second verb inv) := by
  unfold work
  refine (Act.inStep_refl _).bind fun parses => ?_
  rintro files _ rfl
  obtain ⟨outcome, ⟨styles, settings, cursor, last, may, akin⟩, trace⟩ := conducts files parses
  refine ⟨outcome, ?_, trace⟩
  exact (congrArg Session.files akin).symm

end HintLine.Command
