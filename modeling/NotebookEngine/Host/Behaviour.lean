import NotebookEngine.Ending
import NotebookEngine.Host.Files

/-!
# The behaviour of processes

A process asks the host for one thing after the other, and each answer decides how it goes on
(`Behaviour`). `Act` is the part of a behaviour that comes to a value; the rest of the behaviour is
what is done with the value, so that a program can be written as a sequence of acts.
-/

namespace NotebookEngine

namespace Host

/-- What a process does with a signal. -/
inductive Disposition where
  | usual
  | ignored
  | caught
deriving DecidableEq, Repr

/-- How a file is opened. -/
inductive Access where
  | reading
  | writing
  | appending
deriving DecidableEq, Repr

/-- The names and values that a process hands on to the programs it runs. -/
abbrev Environment := List (Octets × Octets)

/-- What a process asks of the host. Open files go by small numbers. -/
inductive Request where
  /-- Read what there is, waiting for something; of a `line` no more than that line, and all of
  it unless it is longer than a pipe holds. Nothing is read at the end. -/
  | read (file : Nat) (line : Bool)
  | write (file : Nat) (octets : Octets)
  | openFile (path : Octets) (access : Access)
  | close (file : Nat)
  /-- Let one number lead where another does. -/
  | copyTo (file target : Nat)
  /-- Let a new number beyond the usual ones lead where another does. -/
  | keep (file : Nat)
  /-- Make a pipe: its reading end and its writing end. -/
  | pipe
  /-- Become another program. There is no answer but a refusal. -/
  | execute (path : Octets) (arguments : List Octets) (environment : Environment)
  /-- Wait for the end of a child, or of any. -/
  | wait (child : Option Nat)
  | sleep (milliseconds : Nat)
  | signal (process number : Nat)
  | dispose (signal : Nat) (disposition : Disposition)
  /-- The signals caught since the last time. -/
  | caughtSignals
  | self
  | inspect (path : Octets)
  | list (path : Octets)
  | makeDirectory (path : Octets)
  | removeDirectory (path : Octets)
  | remove (path : Octets)
  | rename (source target : Octets)
  | changeMode (path : Octets) (mode : Nat)
  | changeDirectory (path : Octets)
  | currentDirectory

/-- The answers to a request. -/
def Request.Answer : Request → Type
  | .read _ _ => Except Fault Octets
  | .write _ _ => Except Fault Unit
  | .openFile _ _ => Except Fault Nat
  | .close _ => Bool
  | .copyTo _ _ => Bool
  | .keep _ => Option Nat
  | .pipe => Nat × Nat
  | .execute _ _ _ => Fault
  | .wait _ => Option (Nat × ExitStatus)
  | .sleep _ => Unit
  | .signal _ _ => Bool
  | .dispose _ _ => Unit
  | .caughtSignals => List Nat
  | .self => Nat
  | .inspect _ => Except Fault Node
  | .list _ => Except Fault (List Octets)
  | .makeDirectory _ => Except Fault Unit
  | .removeDirectory _ => Except Fault Unit
  | .remove _ => Except Fault Unit
  | .rename _ _ => Except Fault Unit
  | .changeMode _ _ => Except Fault Unit
  | .changeDirectory _ => Except Fault Unit
  | .currentDirectory => Path

/-- What a process does from now on. -/
inductive Behaviour where
  /-- The process ends with a code. -/
  | ended (code : Nat)
  | ask (r : Request) (next : r.Answer → Behaviour)
  /-- A child begins to behave, and the process goes on with its number. -/
  | fork (child : Behaviour) (next : Nat → Behaviour)
  /-- The process goes on when it is its turn again. -/
  | pause (next : Unit → Behaviour)
  /-- The process computes for ever. -/
  | spin

/-- What a program does, by its arguments and its environment. -/
abbrev Program := List Octets → Environment → Behaviour

/-- A part of a behaviour that comes to a value. -/
def Act (α : Type) : Type :=
  (α → Behaviour) → Behaviour

namespace Act

instance : Monad Act where
  pure a := fun next => next a
  bind act f := fun next => act fun a => f a next

/-- A request is made. -/
def ask (r : Request) : Act r.Answer :=
  fun next => .ask r next

/-- The process goes on when it is its turn again. -/
def pause : Act Unit :=
  fun next => .pause next

/-- The process ends. -/
def leave {α : Type} (code : Nat) : Act α :=
  fun _ => .ended code

/-- The process computes for ever. -/
def spin {α : Type} : Act α :=
  fun _ => .spin

/-- A child is started; it ends with the code of its act. -/
def fork (child : Act Nat) : Act Nat :=
  fun next => .fork (child .ended) next

/-- The behaviour of a process that only acts, and ends with the code it comes to. -/
def behaviour (act : Act Nat) : Behaviour :=
  act .ended

/-- Octets are written; what cannot be written is lost. -/
def write (file : Nat) (octets : Octets) : Act Unit := do
  if octets.isEmpty then return
  let _ ← ask (.write file octets)

/-- All that is left to read, in at most so many pieces. -/
def readAll (file : Nat) : (pieces : Nat) → Act Octets
  | 0 => spin
  | n + 1 => do
    match ← ask (.read file false) with
    | .ok [] => return []
    | .ok part => return part ++ (← readAll file n)
    | .error _ => return []

end Act

end Host

end NotebookEngine
