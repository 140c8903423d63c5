import HintLine.Ident
import HintLine.Value
import HintLine.Files
import HintLine.Client.Rpc
import HintLine.Hint.Basic
import HintLine.Log.FileName
import HintLine.Log.Journal
import HintLine.Plugin.Error
import HintLine.Settings.Report
import HintLine.Shell.Words
import HintLine.Terminal.Style

/-!
All that can go wrong, by cause. Each part of the library has errors of its own; this type joins them, so that
an action can fail for any of them.
-/

set_option autoImplicit false

namespace HintLine

/-- Why a plug-in or a server gave up. -/
inductive Mishap where
  | badValue
  | runtime
  | other (name : String)
  deriving DecidableEq, Repr

/-- Why settings were refused. -/
inductive Settings.Refusal where
  | invalid (path : String) (report : Settings.Report)
  | displayNotFound (display : String) (cause : Plugin.ImportError)
  | displayNotCallable (display : String)
  deriving DecidableEq, Repr

def Settings.Refusal.message : Settings.Refusal → String
  | invalid path report => s!"Invalid echohint config in {path}: {report.message}"
  | displayNotFound display cause => s!"Display function '{display}' not found: {cause.message}"
  | displayNotCallable display => s!"Display '{display}' is not callable"

/-- Why an action failed. -/
inductive Fault where
  | position (e : PositionError)
  | unpack (e : UnpackError)
  | style (e : Terminal.StyleError)
  | words (e : Shell.Words.Failure)
  | emptyCommand
  | file (e : FileError)
  | undecodable
  | malformed
  | toolShape (kind : String)
  | sectionShape (kind : String)
  | report (r : Settings.Report)
  | refusal (r : Settings.Refusal)
  | missing (e : Plugin.ImportError)
  | relativeSource (path : String)
  | call (e : Plugin.CallError)
  | rpc (e : Client.RpcError)
  | level (e : Log.LevelError)
  | logName (e : Log.FileName.Failure)
  | template (e : Log.Template.Failure)
  | notOpened (buffer : Ident)
  | cannotAttach (buffer client : Ident)
  | raised (mishap : Mishap) (text : String)
  deriving DecidableEq, Repr

/-- The text of the error. Bytes that are no text and files that are no settings have none. -/
def Fault.message : Fault → String
  | position e => e.message
  | unpack e => e.message
  | style e => e.message
  | words e => e.message
  | emptyCommand => "not enough values to unpack (expected at least 1, got 0)"
  | file e => e.message
  | undecodable => ""
  | malformed => ""
  | toolShape kind => s!"'{kind}' object has no attribute 'get'"
  | sectionShape kind =>
    s!"lsp_echohint.config_models.EchoHintTomlConfig() argument after ** must be a mapping, not {kind}"
  | report r => r.message
  | refusal r => r.message
  | missing e => e.message
  | relativeSource path =>
    s!"the 'package' argument is required to perform a relative import for {Text.Quoted.quoted path}"
  | call e => e.message
  | rpc e => e.message
  | level e => e.message
  | logName e => e.message
  | template e => e.message
  | notOpened buffer => s!"Buffer {buffer.text} is not opened"
  | cannotAttach buffer client => s!"Cannot attach buffer {buffer.text} to client {client.text}"
  | raised _ text => text

end HintLine
