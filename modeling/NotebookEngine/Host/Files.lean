import NotebookEngine.Host.Fault
import NotebookEngine.Host.Octets

/-!
# The files of the host

A tree of directories and files. `Files.locate` follows a path, one name at a time, through
directories that exist; every operation first locates its path and then refuses or acts. An entry
leads to a numbered node, and a node outlives its entry, so that a file removed while it is open can
still be read and written.
-/

namespace NotebookEngine

namespace Host

/-- An absolute path: the names on the way from the root. -/
abbrev Path := List Octets

/-- A device that stands among the files. -/
inductive Device where
  /-- Holds nothing and takes everything. -/
  | null
  /-- Holds zeros without end. -/
  | zero
deriving DecidableEq, Repr

/-- What an entry leads to. -/
inductive Node where
  | directory
  | file (mode : Nat) (content : Octets)
  /-- A program that the host itself provides. -/
  | program (name : Octets)
  | device (d : Device)
deriving DecidableEq, Repr

/-- The entries of a tree of files and the nodes they lead to. The root has no entry. -/
structure Files where
  entries : List (Path × Nat) := []
  nodes : Array Node := #[]

namespace Files

/-- The longest name of a file. -/
def longestName : Nat :=
  255

/-- The length at which a path is too long. -/
def pathLimit : Nat :=
  4096

/-! ### Following paths -/

/-- The number of the node at a place. -/
def number? (f : Files) (p : Path) : Option Nat :=
  f.entries.lookup p

/-- What is at a place. -/
def node? (f : Files) : Path → Option Node
  | [] => some .directory
  | p => (f.number? p).bind (f.nodes[·]?)

/-- A directory is at a place. -/
def isDirectoryAt (f : Files) (p : Path) : Bool :=
  f.node? p = some .directory

/-- The names in a path. A path that ends with a slash ends with the name of the directory
itself. -/
def names (path : Octets) : List Octets :=
  let ns := (Text.pieces '/' path).filter fun n => !n.isEmpty
  if Text.endsWith path ['/'] && !ns.isEmpty then ns ++ [['.']] else ns

/-- The place to which a name leads from another. -/
def enter (f : Files) (p : Path) (name : Octets) : Except Fault Path :=
  match f.node? p with
  | none => .error .notFound
  | some .directory =>
    if name = ['.'] then .ok p
    else if name = ['.', '.'] then .ok p.dropLast
    else if longestName < name.length then .error .nameTooLong
    else .ok (p ++ [name])
  | some _ => .error .notDirectory

/-- The place of a path, seen from a directory. There need not be anything at the place. -/
def locate (f : Files) (here : Path) (path : Octets) : Except Fault Path :=
  if path.isEmpty then .error .notFound
  else if path.contains '\x00' then .error .nullInPath
  else if pathLimit ≤ path.length then .error .nameTooLong
  else (names path).foldlM f.enter (if Text.startsWith path ['/'] then [] else here)

/-- The place of a path, and what is there. -/
def find (f : Files) (here : Path) (path : Octets) : Except Fault (Path × Node) := do
  let p ← f.locate here path
  match f.node? p with
  | some n => .ok (p, n)
  | none => .error .notFound

/-- There is something at a path. -/
def existsAt (f : Files) (here : Path) (path : Octets) : Bool :=
  (f.find here path).isOk

/-- The names in a directory, in order. -/
def listing (f : Files) (p : Path) : List Octets :=
  Octets.sort <| f.entries.filterMap fun (q, _) =>
    if q.dropLast = p then q.getLast? else none

/-! ### Changing files -/

/-- The files with a node at a place. -/
def put (f : Files) (p : Path) (n : Node) : Files where
  entries := (p, f.nodes.size) :: f.entries.filter fun e => e.1 ≠ p
  nodes := f.nodes.push n

/-- The files without the entry of a place. -/
def drop (f : Files) (p : Path) : Files :=
  { f with entries := f.entries.filter fun e => e.1 ≠ p }

/-- The files with another node under a number. -/
def setNode (f : Files) (number : Nat) (n : Node) : Files :=
  { f with nodes := f.nodes.setIfInBounds number n }

/-- A path without the slashes at its end. -/
def withoutEndSlashes (path : Octets) : Octets :=
  match (path.reverse.dropWhile (· = '/')).reverse with
  | [] => path.take 1
  | p => p

/-- A directory is made. -/
def makeDirectory (f : Files) (here : Path) (path : Octets) : Except Fault Files :=
  if pathLimit ≤ path.length && !path.contains '\x00' then .error .nameTooLong
  else do
    let p ← f.locate here (withoutEndSlashes path)
    if (f.node? p).isSome then .error .exists
    else if !f.isDirectoryAt p.dropLast then .error .notFound
    else .ok (f.put p .directory)

/-- The path of the directory in which a path lies: all names but the last, without those that stand
for the directory itself. -/
def parent? (path : Octets) : Option Octets :=
  let ns := ((Text.pieces '/' path).filter fun n => !n.isEmpty && n ≠ ['.'])
  let root : Octets := if Text.startsWith path ['/'] then ['/'] else []
  if ns.isEmpty then none else some (root ++ Text.join ['/'] ns.dropLast)

/-- A directory and those it lies in are made where they are missing; `depth` bounds how many. -/
def makeDirectories (here : Path) : (depth : Nat) → Octets → Files → Except Fault Files
  | 0, _, _ => .error .notFound
  | depth + 1, path, f =>
    if path.isEmpty then .ok f
    else
      let settle (f : Files) (fault : Fault) : Except Fault Files :=
        match f.find here path with
        | .ok (_, .directory) => .ok f
        | _ => .error fault
      match f.makeDirectory here path with
      | .ok f => .ok f
      | .error .notFound =>
        match parent? path with
        | none => .error .notFound
        | some up => do
          let f ← makeDirectories here depth up f
          match f.makeDirectory here path with
          | .ok f => .ok f
          | .error fault => settle f fault
      | .error fault => settle f fault

/-- A directory is made with all those it lies in. -/
def makeAll (f : Files) (here : Path) (path : Octets) : Except Fault Files :=
  makeDirectories here (path.length + 1) path f

/-- What writing at a path goes to. -/
inductive Target where
  | node (number : Nat)
  | device (d : Device)
deriving DecidableEq, Repr

/-- A file is opened for writing, and made if it is missing; `empty` empties it. -/
def openForWriting (f : Files) (here : Path) (path : Octets) (mode : Nat) (empty : Bool) :
    Except Fault (Files × Target) := do
  let p ← f.locate here path
  match f.node? p, f.number? p with
  | some .directory, _ => .error .isDirectory
  | some (.device d), _ => .ok (f, .device d)
  | some (.file m _), some number =>
    .ok (if empty then f.setNode number (.file m []) else f, .node number)
  | some _, _ => .error .accessDenied
  | none, _ =>
    if f.isDirectoryAt p.dropLast then .ok (f.put p (.file mode []), .node f.nodes.size)
    else match f.node? p.dropLast with
      | none => .error .notFound
      | some _ => .error .notDirectory

/-- A file gets new content. -/
def write (f : Files) (here : Path) (path content : Octets) (mode : Nat) : Except Fault Files := do
  let (f, target) ← f.openForWriting here path mode true
  match target with
  | .device _ => .ok f
  | .node number =>
    match f.nodes[number]? with
    | some (.file m _) => .ok (f.setNode number (.file m content))
    | _ => .ok f

/-- The content of a file. -/
def read (f : Files) (here : Path) (path : Octets) : Except Fault Octets := do
  match ← f.find here path with
  | (_, .file _ content) => .ok content
  | (_, .directory) => .error .isDirectory
  | _ => .ok []

/-- The entry of a file is removed. -/
def remove (f : Files) (here : Path) (path : Octets) : Except Fault Files := do
  match ← f.find here path with
  | (_, .directory) => .error .isDirectory
  | (p, _) => .ok (f.drop p)

/-- An empty directory is removed. -/
def removeDirectory (f : Files) (here : Path) (path : Octets) : Except Fault Files := do
  match ← f.find here path with
  | (p, .directory) => if (f.listing p).isEmpty then .ok (f.drop p) else .error .notEmpty
  | _ => .error .notDirectory

/-- A file gets another mode. -/
def changeMode (f : Files) (here : Path) (path : Octets) (mode : Nat) : Except Fault Files := do
  match ← f.find here path with
  | (p, .file _ content) =>
    .ok (((f.number? p).map fun n => f.setNode n (.file mode content)).getD f)
  | _ => .ok f

/-- The entries at a place and below it are moved to another place. -/
def rename (f : Files) (here : Path) (source target : Octets) : Except Fault Files := do
  let (p, n) ← f.find here source
  let q ← f.locate here target
  let q := if f.isDirectoryAt q && n ≠ .directory then q ++ p.getLast?.toList else q
  if !f.isDirectoryAt q.dropLast then .error .notFound
  else if p = q then .ok f
  else
    let moved := (f.drop q).entries.map fun (r, number) =>
      if p.isPrefixOf r then (q ++ r.drop p.length, number) else (r, number)
    .ok { f with entries := moved }

/-! ### Programs -/

/-- Some part of a mode lets a file be run. -/
def isRunnable (mode : Nat) : Bool :=
  [mode % 8, mode / 8 % 8, mode / 64 % 8].any fun part => part % 2 = 1

/-- A file that can be run is at a path. -/
def isProgramAt (f : Files) (here : Path) (path : Octets) : Bool :=
  match f.find here path with
  | .ok (_, .file mode _) => isRunnable mode
  | .ok (_, .program _) => true
  | _ => false

/-! ### Building -/

/-- The files with a directory made, and those it lies in. -/
def withDirectory (f : Files) (path : Octets) : Files :=
  (f.makeAll [] path).toOption.getD f

/-- The files with a file written, in directories made for it. -/
def withFile (f : Files) (path content : Octets) (mode : Nat) : Files :=
  let f := ((parent? path).map f.withDirectory).getD f
  match f.write [] path content mode with
  | .error _ => f
  | .ok f => (f.changeMode [] path mode).toOption.getD f

/-- The files with something at an absolute path, in a directory made for it. -/
def withNode (f : Files) (path : Octets) (n : Node) : Files :=
  (((parent? path).map f.withDirectory).getD f).put (names path) n

end Files

end Host

end NotebookEngine
