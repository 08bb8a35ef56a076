import NotebookEngine.Text.Basic

/-!
# Endings of processes

How a process ended that was run within a time limit, and what it wrote. `Ending.describe` words
an ending that was no success.
-/

namespace NotebookEngine

/-- How a process left: by itself with a code, or by a signal. -/
inductive ExitStatus where
  | code (n : Int)
  | signal (n : Nat)
deriving DecidableEq, Repr

/-- The code a process left with, if it left by itself. -/
def ExitStatus.code? : ExitStatus → Option Int
  | .code n => some n
  | .signal _ => none

/-- How a process ended that was given a limited time. -/
inductive Ending where
  | exited (status : ExitStatus)
  /-- The time was over and the process was killed. -/
  | timedOut
deriving DecidableEq, Repr

/-- The process left by itself with code zero. -/
def Ending.isSuccess : Ending → Bool
  | .exited (.code 0) => true
  | _ => false

/-- The wording of an ending, for a process that had so many milliseconds. -/
def Ending.describe (limit : Nat) : Ending → Text
  | .timedOut => "process timed out after ".toList ++ Text.ofNat limit ++ "ms".toList
  | .exited (.code n) => "process exited with code ".toList ++ Text.ofInt n
  | .exited (.signal _) => "process terminated by signal".toList

/-- How a process ended and what it wrote on its two streams. -/
structure ProcessOutput where
  ending : Ending
  stdout : Text
  stderr : Text
deriving DecidableEq, Repr

namespace ProcessOutput

/-- The process left by itself with code zero. -/
def isSuccess (o : ProcessOutput) : Bool :=
  o.ending.isSuccess

/-- The wording of the ending, for a process that had so many milliseconds. -/
def describe (o : ProcessOutput) (limit : Nat) : Text :=
  o.ending.describe limit

end ProcessOutput

/-- The wording of an ending is never empty. -/
theorem Ending.describe_ne_nil (limit : Nat) (e : Ending) :
  e.describe limit ≠ []
  := by
  match e with
  | .timedOut =>
    exact List.append_ne_nil_of_left_ne_nil (List.append_ne_nil_of_left_ne_nil (by decide) _) _
  | .exited (.code _) => exact List.append_ne_nil_of_left_ne_nil (by decide) _
  | .exited (.signal _) => show "process terminated by signal".toList ≠ []; decide

end NotebookEngine
