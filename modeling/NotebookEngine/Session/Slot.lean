import NotebookEngine.EngineError
import NotebookEngine.Session.Message

/-!
# The call slot of a session

What an interpreter session shares between the operation that waits on it and the reader of its
output: whether it is ready, the one call that may be pending, and the exit of its process. Each
message is dispatched to the slot (`dispatch`). The exit is recorded in it part by part (`record`),
and the operation may look at the slot between two parts.
-/

namespace NotebookEngine

namespace Session

/-- How far the handshake of a session is. -/
inductive Handshake where
  /-- An operation waits for the session to announce itself. -/
  | waiting
  /-- The session has announced itself. -/
  | done
  /-- The process left before the session announced itself. -/
  | lost
deriving DecidableEq, Repr

/-- The answer to a call. -/
abbrev Reply := Except EngineError CellResult

/-- A call: pending under its cell, or answered. -/
inductive Call where
  | none
  | pending (cellId : Text)
  /-- The exit of the process has it in hand and will answer it. -/
  | taken
  | answered (reply : Reply)

namespace Call

/-- A pending call is taken. -/
def take : Call → Call
  | .pending _ => .taken
  | c => c

/-- A call that was taken is answered with the exit of the process. -/
def fail (code : Option Int) : Call → Call
  | .taken => .answered (.error (.kernelProcessExited code))
  | c => c

end Call

/-- The parts in which the exit of a process is recorded. -/
inductive ExitPart where
  /-- The session is not ready any more. -/
  | lower
  /-- The exit is stored and a pending call is taken, both at once. -/
  | store
  /-- The call that was taken is answered. -/
  | fail
  /-- Whoever waits for the session to announce itself is let go. -/
  | dismiss
deriving DecidableEq, Repr

/-- The parts in their order. -/
def ExitPart.all : List ExitPart :=
  [.lower, .store, .fail, .dismiss]

/-- The shared state of a session. -/
structure Slot where
  ready : Bool := false
  call : Call := .none
  handshake : Handshake := .waiting
  /-- The exit of the process, with its code unless a signal ended it. -/
  exited : Option (Option Int) := Option.none

namespace Slot

/-- The process is known to have left. -/
def hasExited (s : Slot) : Bool :=
  s.exited.isSome

/-- The code with which the process left, if it has and if it had one. -/
def exitCode (s : Slot) : Option Int :=
  s.exited.join

/-- The session is ready and its process is not known to have left. -/
def isAlive (s : Slot) : Bool :=
  !s.hasExited && s.ready

/-- The error of a process that has left. -/
def exitError (s : Slot) : EngineError :=
  .kernelProcessExited s.exitCode

/-- The slot with a call begun for a cell; a process that has left accepts none. -/
def begin? (s : Slot) (cellId : Text) : Except EngineError Slot :=
  if s.hasExited then .error s.exitError else .ok { s with call := .pending cellId }

/-- The slot without its call. -/
def abandon (s : Slot) : Slot :=
  { s with call := .none }

/-- A result answers the pending call of its own cell and no other. -/
def complete (s : Slot) (r : CellResult) : Slot :=
  match s.call with
  | .pending cellId => if cellId = r.cellId then { s with call := .answered (.ok r) } else s
  | _ => s

/-- The session announces that it is ready. -/
def announce (s : Slot) : Slot :=
  { s with ready := true, handshake := if s.handshake = .waiting then .done else s.handshake }

/-- The slot after a message. Results are put into normal form. -/
def dispatch (s : Slot) : Message → Slot
  | .ready => s.announce
  | .shutdownAcknowledged => { s with ready := false }
  | .result r => s.complete r.normalize

/-- The slot after a line of output; one that is no message changes nothing. -/
def readLine (s : Slot) (line : Text) : Slot :=
  match Message.ofLine line with
  | .ok m => s.dispatch m
  | .error _ => s

/-- The slot after a part of the exit is recorded. -/
def record (s : Slot) (code : Option Int) : ExitPart → Slot
  | .lower => { s with ready := false }
  | .store => { s with exited := some code, call := s.call.take }
  | .fail => { s with call := s.call.fail code }
  | .dismiss => { s with handshake := if s.handshake = .waiting then .lost else s.handshake }

end Slot

end Session

end NotebookEngine
