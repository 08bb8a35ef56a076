import NotebookEngine.Host.Machine

/-!
# The host's part

The host stands outside the machine. It starts processes and holds ends of their pipes (`start`),
kills them, and learns how they have ended (`statusOf`).
-/

namespace NotebookEngine

namespace Host

namespace Machine

/-- How a process has ended, if it has. -/
def statusOf (m : Machine) (id : Nat) : Option ExitStatus :=
  (m.process? id).bind fun p => p.status

/-- The machine without a process that has ended, once the host has learned how. -/
def forget (m : Machine) (id : Nat) : Machine :=
  { m with processes := m.processes.filter fun p => p.id ≠ id || p.status.isNone }

/-- A process is killed by the host. -/
def kill (m : Machine) (id : Nat) : Machine :=
  match m.process? id with
  | some p => if p.status.isSome then m else m.deliver p killSignal
  | none => m

/-- The host lets a pipe go. -/
def release (m : Machine) (n : Nat) : Machine :=
  m.setPipe n { m.pipe n with hostReads := false, hostWrites := false }

/-- The path of a program on the search path, as the system finds it to run it. -/
def locateIn (m : Machine) (here : Path) (program : Octets) :
    (directories : List Octets) → (denied : Bool) → Except Fault Octets
  | [], denied => .error (if denied then .accessDenied else .notFound)
  | d :: ds, denied =>
    let path := if d.isEmpty then program else d ++ '/' :: program
    if m.files.isProgramAt here path then .ok path
    else locateIn m here program ds (denied || m.files.existsAt here path)

/-- The directories of the search path in an environment. -/
def searchPath (environment : Environment) : List Octets :=
  match environment.lookup "PATH".toList with
  | some path => Text.pieces ':' path
  | none => ["/bin".toList, "/usr/bin".toList]

/-- The path under which a program is run: what holds a slash is a path itself. -/
def resolve (m : Machine) (here : Path) (program : Octets) (environment : Environment) :
    Except Fault Octets :=
  if program.contains '/' then .ok program
  else if program.isEmpty then .error .notFound
  else m.locateIn here program (searchPath environment) false

/-- A process that the host has started: its number, and the pipes of its input, its output and its
errors. -/
structure Started where
  process : Nat
  input : Nat
  output : Nat
  errors : Nat
deriving DecidableEq, Repr

/-- The host starts a process. Without `fed` it has no input. -/
def start (m : Machine) (here : Path) (environment : Environment) (fed : Bool)
    (program : Octets) (arguments : List Octets) : Except Fault (Machine × Started) := do
  if (program :: arguments).any fun a => a.contains '\x00' then throw .nullInCommand
  let path ← m.resolve here program environment
  let behaviour ← m.program here path (program :: arguments) environment
  let n := m.pipes.size
  let input : Handle := if fed then .reader n else .device .null
  let p : Process :=
    { id := m.nextProcess
      parent := .host
      behaviour
      handles := [(0, input), (1, .writer (n + 1)), (2, .writer (n + 2))]
      directory := here }
  let pipes := (m.pipes.push { hostWrites := fed }).push { hostReads := true }
    |>.push { hostReads := true }
  .ok ({ m with pipes, processes := m.processes ++ [p], nextProcess := m.nextProcess + 1 },
    ⟨m.nextProcess, n, n + 1, n + 2⟩)

end Machine

end Host

end NotebookEngine
