import NotebookEngine.Host.Behaviour
import NotebookEngine.Shell.Command

/-!
# The state of a shell

What a shell knows: its parameters, its functions, how the last command ended, the signals it waits
for. `Run` is an act of a shell, which may change its state.
-/

namespace NotebookEngine

namespace Shell

open Host (Octets Act Request Environment)

/-- A parameter with a name. -/
structure Variable where
  value : Option Octets
  isExported : Bool := false
  isReadOnly : Bool := false
deriving DecidableEq, Repr

/-- What a shell knows. -/
structure State where
  name : Octets
  arguments : List Octets
  /-- The number of the process that the shell began as. -/
  id : Nat
  bindings : List (Octets × Variable) := []
  functions : List (Octets × Command) := []
  /-- How the last command ended. -/
  status : Nat := 0
  /-- How the commands ended whose output was last put into a word. -/
  outputStatus : Option Nat := none
  line : Nat := 1
  background : Option Nat := none
  /-- The commands for signals, and under 0 for the end of the shell. -/
  traps : List (Nat × Octets) := []
  options : List Char := []
  /-- How many repetitions are under way, in the function under way if there is one. -/
  loops : Nat := 0
  /-- The variables that the functions under way have hidden, the innermost first. -/
  hidden : List (List (Octets × Option Variable)) := []

namespace State

/-- The value of a named parameter. -/
def value? (s : State) (name : Octets) : Option Octets :=
  (s.bindings.lookup name).bind Variable.value

/-- The state with a parameter set. -/
def setVariable (s : State) (name value : Octets) : State :=
  let old := (s.bindings.lookup name).getD ⟨none, false, false⟩
  let new := { old with
    value := some value
    isExported := old.isExported || s.options.contains 'a' }
  { s with bindings := (name, new) :: s.bindings.filter fun v => v.1 ≠ name }

/-- The state with a variable as given, or without it. -/
def putVariable (s : State) (name : Octets) (v : Option Variable) : State :=
  let others := s.bindings.filter fun v => v.1 ≠ name
  { s with bindings := (v.map (name, ·)).toList ++ others }

/-- The parameter may not be changed. -/
def isReadOnly (s : State) (name : Octets) : Bool :=
  (s.bindings.lookup name).any Variable.isReadOnly

/-- The variables handed on to programs. -/
def environment (s : State) : Environment :=
  s.bindings.reverse.filterMap fun (name, v) =>
    if v.isExported then v.value.map (name, ·) else none

/-- The directories in which programs are looked for. -/
def searchPath (s : State) : List Octets :=
  match s.value? "PATH".toList with
  | some path => Text.pieces ':' path
  | none => []

/-- The characters between which unquoted values are divided. -/
def separators (s : State) : Octets :=
  (s.value? "IFS".toList).getD [' ', '\t', '\n']

end State

/-- An act of a shell. -/
abbrev Run := StateT State Act

/-- A request is made of the host. -/
def host (r : Request) : Run r.Answer :=
  fun s next => .ask r fun a => next (a, s)

/-- The process ends. -/
def leaveProcess {α : Type} (code : Nat) : Run α :=
  fun _ _ => .ended code

/-- The shell goes on when it is its turn again. -/
def pause : Run Unit :=
  fun s next => .pause fun _ => next ((), s)

/-- The shell computes for ever. -/
def spin {α : Type} : Run α :=
  fun _ _ => .spin

/-- A child is started as a copy of the shell that does something else and ends with its code. -/
def forkShell (child : Run Nat) : Run Nat :=
  fun s next => .fork (child s fun r => .ended r.1) fun id => next (id, s)

/-- A message about what a shell could not do, with the name of the shell and the line. -/
def complain (message : Octets) : Run Unit := do
  let s ← get
  let text := s.name ++ ": ".toList ++ Text.ofNat s.line ++ ": ".toList ++ message ++ ['\n']
  let _ ← host (.write 2 text)

end Shell

end NotebookEngine
