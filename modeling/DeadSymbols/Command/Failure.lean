import DeadSymbols.Image.Input
import DeadSymbols.Provider
import DeadSymbols.SettingsFile
import DeadSymbols.Text.Line

/-!
Contract: how a command fails.

A failure has a cause and the contexts around it, the outermost first. Its layers are the
contexts, the cause's own wording, and, where that wording rests on a further error, that error's
wording once more.
-/

namespace DeadSymbols

/-- Why a command fails. -/
inductive Cause where
  | settings (error : SettingsError)
  | provider (error : ProviderError)
  | input (error : InputError)
  | file (error : FileError)
deriving DecidableEq, Repr

/-- The wordings of a cause, from the outside in. -/
def Cause.layers : Cause → List String
  | .settings error =>
    error.message ::
      match error with
      | .read _ cause => [cause.message]
      | .json _ cause => [cause.message]
      | .yaml _ => [yamlMessage]
      | .invalidWhitelist _ => []
  | .provider error =>
    error.message ::
      match error with
      | .dumpFile _ cause => [cause.message]
      | _ => []
  | .input error =>
    error.message ::
      match error with
      | .unreadable _ cause => [cause.message]
      | .staging _ cause => [cause.message]
      | _ => []
  | .file error => [error.message]

/-- A failure of a command. -/
structure Failure where
  contexts : List String
  cause : Cause
deriving DecidableEq, Repr

namespace Failure

/-- A failure without a context. -/
def of (cause : Cause) : Failure := { contexts := [], cause }

/-- All wordings of a failure, from the outside in. -/
def layers (failure : Failure) : List String := failure.contexts ++ failure.cause.layers

/-- The failure on one line. -/
def summary (failure : Failure) : String := ": ".intercalate failure.layers

/-- A text with its further lines behind a margin. -/
def withMargin (margin : String) (text : String) : String :=
  String.ofList (text.toList.flatMap fun c => if c = '\n' then '\n' :: margin.toList else [c])

/-- The causes below the outermost layer. Several of them are numbered. -/
def causeLines : List String → String
  | [] => ""
  | [cause] => "\n    " ++ withMargin "    " cause
  | causes =>
    String.join <| causes.zipIdx.map fun (cause, number) =>
      let label := toString number
      "\n" ++ String.ofList (List.replicate (5 - label.length) ' ') ++ label ++ ": " ++
        withMargin "       " cause

/-- The failure as it is shown at the end of a run. -/
def trace (failure : Failure) : String :=
  match failure.layers with
  | [] => "Error: \n"
  | outermost :: causes =>
    "Error: " ++ outermost ++
      (if causes.isEmpty then "" else "\n\nCaused by:" ++ causeLines causes) ++ "\n"

end Failure

/-- A command that may fail. -/
abbrev CommandM : Type → Type := ExceptT Failure HostM

/-- Ends a command when a step has failed. -/
def orFail {ε α : Type} (cause : ε → Cause) (result : Except ε α) : CommandM α :=
  ExceptT.mk (pure (result.mapError fun error => Failure.of (cause error)))

/-- Runs a command inside a context. -/
def inContext {α : Type} (context : String) (command : CommandM α) : CommandM α :=
  ExceptT.adapt (fun failure => { failure with contexts := context :: failure.contexts }) command

end DeadSymbols
