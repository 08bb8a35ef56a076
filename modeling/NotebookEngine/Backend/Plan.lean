import NotebookEngine.Ending
import NotebookEngine.Host.Fault

/-!
# Plans

A backend asks a few things of the host: to make a directory, to write, read and remove files, and
to run a command for a limited time. A `Plan` is a dialogue of such requests, in which each answer
decides how it goes on. That a path is registered shows in the dialogue, but asks for nothing. What
a backend does is a plan; carrying it out is up to the host.
-/

namespace NotebookEngine

/-- A command to be run: a program and its arguments. -/
structure Command where
  program : Text
  arguments : List Text
deriving DecidableEq, Repr

/-- A dialogue with the host that ends with a value. -/
inductive Plan (α : Type) where
  | done (a : α)
  /-- A path is registered for a file that is to be removed at the end. -/
  | register (path : Text) (next : Plan α)
  /-- Make a directory and those it lies in, where they are missing. -/
  | makeDirectory (path : Text) (next : Except Host.Fault Unit → Plan α)
  | write (path content : Text) (next : Except Host.Fault Unit → Plan α)
  | read (path : Text) (next : Except Host.Fault Text → Plan α)
  /-- Run a command for so many milliseconds at most. -/
  | run (command : Command) (limit : Nat) (next : Except Host.Fault ProcessOutput → Plan α)
  /-- Remove a file if there is one. -/
  | remove (path : Text) (next : Plan α)

namespace Plan

/-- A plan goes on with what its value decides. -/
def bind {α β : Type} (f : α → Plan β) : Plan α → Plan β
  | .done a => f a
  | .register path next => .register path (next.bind f)
  | .makeDirectory path next => .makeDirectory path fun r => (next r).bind f
  | .write path content next => .write path content fun r => (next r).bind f
  | .read path next => .read path fun r => (next r).bind f
  | .run command limit next => .run command limit fun r => (next r).bind f
  | .remove path next => .remove path (next.bind f)

/-- The files are removed, then the plan goes on. -/
def removeAll {α : Type} (paths : List Text) (next : Plan α) : Plan α :=
  paths.foldr Plan.remove next

instance : Monad Plan where
  pure := .done
  bind p f := p.bind f

/-- To go on with nothing more changes nothing. -/
theorem bind_done {α : Type} (p : Plan α) :
  p.bind .done = p
  := by
  induction p with
  | done a => rfl
  | register path next ih => simp [bind, ih]
  | makeDirectory path next ih => simp [bind, ih]
  | write path content next ih => simp [bind, ih]
  | read path next ih => simp [bind, ih]
  | run command limit next ih => simp [bind, ih]
  | remove path next ih => simp [bind, ih]

end Plan

end NotebookEngine
