import NotebookEngine.Config
import NotebookEngine.Host.Bounded

/-!
# Finding toolchains

A toolchain is an executable that is found by an explicit path, by an environment variable, or on the
search path, in this order.
-/

namespace NotebookEngine

open Host (Octets Site Files)

/-- How toolchains are found. -/
inductive Finder where
  /-- At the paths given and nowhere else. -/
  | fixed (paths : Overrides)
  /-- On the host, after the paths given. -/
  | system (paths : Overrides)
deriving DecidableEq, Repr

namespace Finder

/-- The value of a variable of the environment, if it is text. -/
def value? (site : Site) (name : Text) : Option Text :=
  (site.environment.lookup (Octets.ofText name)).bind Octets.toText?

/-- The directories of the search path. -/
def searchPath (site : Site) : List Octets :=
  match site.environment.lookup "PATH".toList with
  | some path => (Text.pieces ':' path).filter fun d => !d.isEmpty
  | none => []

/-- A path within a directory. -/
def within (directory name : Octets) : Octets :=
  if Text.endsWith directory ['/'] then directory ++ name else directory ++ '/' :: name

/-- The path of the first executable of a name on the search path. -/
def onPath? (files : Files) (site : Site) (name : Text) : Option Text :=
  let candidates := (searchPath site).map fun d => within d (Octets.ofText name)
  (candidates.find? (files.isProgramAt site.directory)).map Octets.toText

/-- The path that the environment gives for a toolchain, if there is something there. -/
def inEnvironment? (files : Files) (site : Site) (t : Toolchain) : Option Text :=
  (value? site t.environmentName).filter fun path =>
    files.existsAt site.directory (Octets.ofText path)

/-- The path of a toolchain. -/
def find (f : Finder) (files : Files) (site : Site) (t : Toolchain) : Option Text :=
  match f with
  | .fixed paths => paths.path? t
  | .system paths =>
    ((paths.path? t).or (inEnvironment? files site t)).or
      (t.candidates.findSome? (onPath? files site))

end Finder

end NotebookEngine
