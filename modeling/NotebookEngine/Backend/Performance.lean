import NotebookEngine.Backend.Plan
import NotebookEngine.Host.Bounded

/-!
# Carrying out plans

A plan is carried out on a machine, which answers its requests one after the other.
-/

namespace NotebookEngine

namespace Plan

open Host (Octets Site Machine)

/-- The files of a machine after a change, or why it was refused. -/
def changed (m : Machine) : Except Host.Fault Host.Files → Except Host.Fault Unit × Machine
  | .ok files => (.ok (), { m with files })
  | .error f => (.error f, m)

/-- The mode of a file that a plan writes. -/
def fileMode : Nat :=
  420

/-- The text of a file. -/
def textIn (f : Host.Files) (here : Host.Path) (path : Text) : Except Host.Fault Text := do
  let content ← f.read here (Octets.ofText path)
  match Octets.toText? content with
  | some t => .ok t
  | none => .error .notUtf8

/-- The text of a file on a machine. -/
def textAt (m : Machine) (site : Site) (path : Text) : Except Host.Fault Text :=
  textIn m.files site.directory path

/-- The value to which a plan comes on a machine, and the machine after it. -/
def perform {α : Type} (site : Site) : Plan α → Machine → α × Machine
  | .done a, m => (a, m)
  | .register _ next, m => next.perform site m
  | .makeDirectory path next, m =>
    let (r, m) := changed m (m.files.makeAll site.directory (Octets.ofText path))
    (next r).perform site m
  | .write path content next, m =>
    let (r, m) := changed m (m.files.write site.directory (Octets.ofText path)
      (Octets.ofText content) fileMode)
    (next r).perform site m
  | .read path next, m => (next (textAt m site path)).perform site m
  | .run command limit next, m =>
    let (r, m) := m.runBounded site command.program command.arguments limit
    (next r).perform site m
  | .remove path next, m =>
    let (_, m) := changed m (m.files.remove site.directory (Octets.ofText path))
    next.perform site m

end Plan

end NotebookEngine
