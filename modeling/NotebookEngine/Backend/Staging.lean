import NotebookEngine.Backend.Plan
import NotebookEngine.EngineError

/-!
# Staged files

The files of one run lie in a common directory under names that begin alike and hold an identifier
of that run. A path is registered before anything is written to it (`Staging.reserve`), and at the
end all registered files are removed, whatever has happened in between (`Work.run`).
-/

namespace NotebookEngine

/-- A path within a directory. -/
def joinPath (directory name : Text) : Text :=
  if directory.isEmpty || Text.endsWith directory ['/'] then directory ++ name
  else directory ++ '/' :: name

/-- The files of one run: where they lie, the kind and the identifier in their names, and the paths
registered so far. -/
structure Staging where
  directory : Text
  kind : Text
  id : Text
  paths : List Text := []
deriving DecidableEq, Repr

namespace Staging

/-- The name of a file. -/
def fileName (s : Staging) (suffix : Text) : Text :=
  "polycell_".toList ++ s.kind ++ '_' :: s.id ++ suffix

/-- The path of a file. -/
def path (s : Staging) (suffix : Text) : Text :=
  joinPath s.directory (s.fileName suffix)

/-- The staging with the path of a file registered. -/
def reserve (s : Staging) (suffix : Text) : Staging :=
  { s with paths := s.paths ++ [s.path suffix] }

end Staging

/-- The work of a run, which registers files and may fail. -/
def Work (α : Type) : Type :=
  Staging → Plan (Except EngineError α × Staging)

namespace Work

instance : Monad Work where
  pure a := fun s => .done (.ok a, s)
  bind w f := fun s => (w s).bind fun
    | (.ok a, s) => f a s
    | (.error e, s) => .done (.error e, s)

/-- The work fails. -/
def fail {α : Type} (e : EngineError) : Work α :=
  fun s => .done (.error e, s)

/-- A path is registered. -/
def reserve (suffix : String) : Work Text :=
  fun s =>
    .register (s.path suffix.toList) (.done (.ok (s.path suffix.toList), s.reserve suffix.toList))

/-- The answer of the host, or the error it tells. -/
def ask {α : Type} (request : (Except Host.Fault α → Plan (Except EngineError α × Staging)) →
    Plan (Except EngineError α × Staging)) : Work α :=
  fun s => request fun
    | .ok a => .done (.ok a, s)
    | .error f => .done (.error (.io f), s)

/-- A file is written; the directory is made first, then the path is registered. -/
def write (suffix : String) (content : Text) : Work Text := do
  let directory ← fun s => .done (.ok s.directory, s)
  ask (.makeDirectory directory)
  let path ← reserve suffix
  ask (.write path content)
  return path

/-- A command is run for a limited time. -/
def execute (command : Command) (limit : Nat) : Work ProcessOutput :=
  ask (.run command limit)

/-- The text of a file, if it can be read. -/
def read? (path : Text) : Work (Option Text) :=
  fun s => .read path fun r => .done (.ok r.toOption, s)

/-- The work is done from a fresh staging, and all files registered are removed at its end. -/
def run (w : Work CellResult) (s : Staging) (cellId : Text) : Plan CellResult :=
  (w s).bind fun (r, s) =>
    Plan.removeAll s.paths <| .done <|
      match r with
      | .ok result => result
      | .error e => .failedEarly cellId e.failure

end Work

end NotebookEngine
