import NotebookEngine.Ending
import NotebookEngine.Host.Capture
import NotebookEngine.Host.Launch

/-!
# Commands for a limited time

A command is started without input and given a limited time, then killed. What it has written is
read to its end, or for a little while if some other process still holds its output.
-/

namespace NotebookEngine

namespace Host

/-- Where a host starts processes, and with what environment. -/
structure Site where
  directory : Path := []
  environment : Environment := []
deriving DecidableEq, Repr

/-- A path that leads to the same place from everywhere. -/
def Site.absolute (s : Site) (path : Text) : Text :=
  if Text.startsWith path ['/'] then path
  else (s.directory.flatMap fun name => '/' :: Octets.toText name) ++ '/' :: path

namespace Machine

/-- How long output is read, in milliseconds, after the process that wrote it is gone. -/
def drainTime : Nat :=
  500

/-- The machine once nothing more can be written to a pipe or the time for it is over. -/
def outlast (m : Machine) (n : Nat) : Machine :=
  m.waitUntil (some (m.now + drainTime)) fun m => !m.isFed n

/-- All that comes through a pipe. -/
def received (m : Machine) (n : Nat) : Octets :=
  ((m.outlast n).pipe n).content

/-- What is kept of all that comes through a pipe. -/
def drain (m : Machine) (cutting : Cutting) (n : Nat) : Octets × Machine :=
  (capture [] (cutting.answers (m.received n)), (m.outlast n).release n)

/-- How a process ends within a time; one that does not is killed. No time at all is over at once. -/
def finishWithin (m : Machine) (id limit : Nat) : Ending × Machine :=
  let m :=
    if limit = 0 then m
    else m.waitUntil (some (m.now + limit)) fun m => (m.statusOf id).isSome
  match m.statusOf id with
  | some status => (.exited status, m.forget id)
  | none => (.timedOut, (m.kill id).forget id)

/-- A command is run for so many milliseconds at most, and its output and its errors come in the
reads given. -/
def runCut (m : Machine) (output errors : Cutting) (site : Site) (program : Text)
    (arguments : List Text) (limit : Nat) : Except Fault ProcessOutput × Machine :=
  match m.start site.directory site.environment false (Octets.ofText program)
      (arguments.map Octets.ofText) with
  | .error f => (.error f, m)
  | .ok (m, started) =>
    let (ending, m) := m.finishWithin started.process limit
    let (output, m) := m.drain output started.output
    let (errors, m) := m.drain errors started.errors
    (.ok ⟨ending, Octets.toText output, Octets.toText errors⟩, m)

/-- A command is run for so many milliseconds at most. -/
def runBounded (m : Machine) (site : Site) (program : Text) (arguments : List Text) (limit : Nat) :
    Except Fault ProcessOutput × Machine :=
  m.runCut .full .full site program arguments limit

end Machine

end Host

end NotebookEngine
