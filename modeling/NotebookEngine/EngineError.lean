import NotebookEngine.Host.Fault
import NotebookEngine.Json.Fault
import NotebookEngine.Result
import NotebookEngine.Toolchain

/-!
# Errors of the engine

What goes wrong in the engine itself, as opposed to the fragment it runs. Each cause has one
wording (`EngineError.message`) and one kind; an error met while a fragment runs becomes the
failure of its result (`EngineError.failure`).
-/

namespace NotebookEngine

/-- Why an interpreter session did not start. -/
inductive StartupFault where
  /-- The process could not be started. -/
  | spawn (runtime : Text) (fault : Host.Fault)
  /-- The session did not announce itself in time. -/
  | silent (milliseconds : Nat)
  /-- Another reason, told in words. -/
  | told (reason : Text)
deriving DecidableEq, Repr

/-- The wording of a reason not to start. -/
def StartupFault.message : StartupFault → Text
  | .spawn runtime fault =>
    "failed to spawn '".toList ++ runtime ++ "': ".toList ++ fault.message
  | .silent ms => "no ready message within ".toList ++ Text.ofNat ms ++ "ms".toList
  | .told reason => reason

/-- An error of the engine. -/
inductive EngineError where
  | unknownLanguage (tag : Text)
  | toolchainNotFound (toolchain : Toolchain)
  | kernelStartup (fault : StartupFault)
  | kernelProcessExited (code : Option Int)
  | kernelNotRunning
  | noKnownRuntime
  | executionTimeout (milliseconds : Nat)
  | json (fault : Json.Fault)
  | io (fault : Host.Fault)
deriving DecidableEq, Repr

namespace EngineError

/-- The wording of an error. -/
def message : EngineError → Text
  | .unknownLanguage tag => "unknown language: ".toList ++ tag
  | .toolchainNotFound t => t.title ++ " not found".toList
  | .kernelStartup f => "kernel failed to start: ".toList ++ f.message
  | .kernelProcessExited none => "kernel process exited".toList
  | .kernelProcessExited (some code) =>
    "kernel process exited with code ".toList ++ Text.ofInt code
  | .kernelNotRunning => "kernel is not running".toList
  | .noKnownRuntime => "no interpreter path known for restart".toList
  | .executionTimeout ms => "execution timed out after ".toList ++ Text.ofNat ms ++ "ms".toList
  | .json f => "JSON error: ".toList ++ f.message
  | .io f => "IO error: ".toList ++ f.message

/-- The kind of an error. -/
def kind : EngineError → FailureKind
  | .toolchainNotFound _ => .toolchainNotFound
  | .kernelProcessExited _ => .kernelProcessExited
  | .executionTimeout _ => .executionTimeout
  | _ => .executionError

/-- The error that lies under this one, in words. -/
def cause? : EngineError → Option Text
  | .json f => some f.message
  | .io f => some f.message
  | _ => none

/-- The error as the failure of a result. -/
def failure (e : EngineError) : Failure :=
  .ofKind e.kind e.message []

end EngineError

end NotebookEngine
