import NotebookEngine.Host.Behaviour

/-!
# Processes

A process has a number, a parent that waits for its end, open files, a directory and dispositions of
signals. Open files go by small numbers, each of which leads to a `Handle`; handles of one file may
share the place reached in it (`Description`).
-/

namespace NotebookEngine

namespace Host

/-- What the number of an open file leads to. -/
inductive Handle where
  | reader (pipe : Nat)
  | writer (pipe : Nat)
  | file (description : Nat)
  | device (d : Device)
deriving DecidableEq, Repr

/-- A file as it is open: its node, the place reached in it, and how it may be used. -/
structure Description where
  node : Nat
  offset : Nat
  access : Access
deriving DecidableEq, Repr

/-- A pipe: what was written and not yet read, and the ends that the host holds. -/
structure Pipe where
  content : Octets := []
  hostReads : Bool := false
  hostWrites : Bool := false
deriving DecidableEq, Repr

/-- Who waits for the end of a process. -/
inductive Parent where
  | host
  | process (id : Nat)
  | nobody
deriving DecidableEq, Repr

/-- A process. -/
structure Process where
  id : Nat
  parent : Parent
  behaviour : Behaviour
  handles : List (Nat × Handle)
  directory : Path
  dispositions : List (Nat × Disposition) := []
  caught : List Nat := []
  /-- The time at which a process that sleeps goes on. -/
  waking : Option Nat := none
  /-- How the process has ended; it stays until someone has learned it. -/
  status : Option ExitStatus := none

namespace Process

/-- The handle of an open file. -/
def handle? (p : Process) (file : Nat) : Option Handle :=
  p.handles.lookup file

/-- The process with a number that leads nowhere. -/
def without (p : Process) (file : Nat) : Process :=
  { p with handles := p.handles.filter fun h => h.1 ≠ file }

/-- The process with a number that leads to a handle. -/
def withHandle (p : Process) (file : Nat) (h : Handle) : Process :=
  { p.without file with handles := (file, h) :: (p.without file).handles }

/-- The least number from a given one on that leads nowhere. -/
def freeNumber (p : Process) (least : Nat) : Nat :=
  ((List.range (p.handles.length + 1)).map (least + ·)).find?
    (fun n => (p.handle? n).isNone) |>.getD least

/-- The disposition of a signal. -/
def disposition (p : Process) (signal : Nat) : Disposition :=
  (p.dispositions.lookup signal).getD .usual

/-- What a program, or a child, keeps of the dispositions: signals are caught no longer. -/
def uncaught (p : Process) : List (Nat × Disposition) :=
  p.dispositions.filter fun d => d.2 ≠ .caught

end Process

end Host

end NotebookEngine
