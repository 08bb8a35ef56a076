import NotebookEngine.Host.Bounded
import NotebookEngine.Session.Bundled
import NotebookEngine.Session.Queue

/-!
# Sessions on a host

A queue of callers with the machine on which its session runs. What the manager does is done to the
machine, and what happens on the machine is told to the manager: lines of output in their order, the
end of the output, the exit of the process, and the end of the time allowed for a stage. A line is
written to a process as fast as its input takes it.
-/

namespace NotebookEngine

namespace Session

open Host (Octets Site Machine)

/-- A queue and the machine it works on. -/
structure Hosted where
  queue : Queue
  machine : Machine
  site : Site
  /-- Where the bundled script is put, and what tells its name from others. -/
  scriptDirectory : Text
  scriptId : Text
  /-- The process that was started last. -/
  started : Option Machine.Started := none
  /-- When the time allowed for the stage is over. -/
  deadline : Option Nat := none
  /-- What is still to be done. -/
  pending : List Effect := []
  /-- What is left of the line that is being written. -/
  unwritten : Option Octets := none
  outcomes : List (Nat × Outcome) := []

namespace Hosted

/-- The path of the bundled script, which does not hang on where processes are started. -/
def scriptPath (h : Hosted) : Text :=
  let name := "polycell_kernel_".toList ++ h.scriptId ++ ".py".toList
  let directory := h.site.absolute h.scriptDirectory
  if Text.endsWith directory ['/'] then directory ++ name else directory ++ '/' :: name

/-- The mode of the bundled script. -/
def scriptMode : Nat :=
  384

/-- The queue after a step, with what is to be done; the time allowed for the stage begins. -/
def step (h : Hosted) (s : Queue × List Effect) : Hosted :=
  let (q, effects) := s
  { h with
    queue := q
    pending := h.pending ++ effects
    deadline := (q.manager.stage.allowance q.manager.config).map (h.machine.now + ·) }

/-- An event is told to the manager. -/
def hear (h : Hosted) (e : Event) : Hosted :=
  h.step (h.queue.hear e)

/-! ### What the manager does -/

/-- The bundled script is put in place. -/
def prepare (h : Hosted) : Hosted :=
  let files : Except Host.Fault Host.Files := do
    let f ← h.machine.files.makeAll h.site.directory (Octets.ofText h.scriptDirectory)
    f.write h.site.directory (Octets.ofText h.scriptPath) (Octets.ofText bundledScript) scriptMode
  match files with
  | .error f => h.hear (.prepared (.error f))
  | .ok files =>
    { h with machine := { h.machine with files } }.hear (.prepared (.ok h.scriptPath))

/-- A process is started. -/
def spawn (h : Hosted) (runtime : Text) (arguments : List Text) : Hosted :=
  match h.machine.start h.site.directory h.site.environment true (Octets.ofText runtime)
      (arguments.map Octets.ofText) with
  | .error f => h.hear (.spawned (.error f))
  | .ok (machine, started) =>
    { h with machine, started := some started }.hear (.spawned (.ok started.process))

/-- A line is to be written to the process. -/
def write (h : Hosted) (line : Text) : Hosted :=
  { h with unwritten := some (Octets.ofText line) }

/-- The machine with octets written to a pipe. -/
def feed (m : Machine) (pipe : Nat) (octets : Octets) : Machine :=
  let p := m.pipe pipe
  m.setPipe pipe { p with content := p.content ++ octets }

/-- The writing of a line goes on, unless the input of the process is full. It is over when all is
written, or when nobody reads it any more. -/
def pour? (h : Hosted) : Option Hosted :=
  match h.unwritten, h.started with
  | none, _ => none
  | some _, none => some ({ h with unwritten := none }.hear (.written false))
  | some rest, some s =>
    let room := h.machine.room s.input
    if !h.machine.isDrained s.input then some ({ h with unwritten := none }.hear (.written false))
    else if rest.length ≤ room then
      some ({ h with unwritten := none, machine := feed h.machine s.input rest }.hear
        (.written true))
    else if room = 0 then none
    else
      some { h with
        unwritten := some (rest.drop room)
        machine := feed h.machine s.input (rest.take room) }

/-- Something is done. -/
def perform (h : Hosted) : Effect → Hosted
  | .outcome ticket o => { h with outcomes := h.outcomes ++ [(ticket, o)] }
  | .act .prepare => h.prepare
  | .act (.spawn runtime arguments) => h.spawn runtime arguments
  | .act (.write line) => h.write line
  | .act .closeInput =>
    match h.started with
    | some s => { h with machine := h.machine.release s.input }
    | none => h
  | .act .kill =>
    match h.started with
    | some s => { h with machine := h.machine.kill s.process }
    | none => h
  | .act (.answer _) => h

/-! ### What the manager is told -/

/-- The next thing that a process does of which the manager takes notice, on a machine that may have
gone on: a line, the end of the output, and, if `withExit`, the exit once the output is not read any
more. An exit that is noticed is recorded in all its parts. -/
def nextOutput (withExit : Bool) (l : Live) (s : Machine.Started) (m : Machine) :
    Option (Output × Machine) :=
  if l.process ≠ s.process then none
  else match l.reader with
  | .recording _ [] => none
  | .recording _ (_ :: _) => some (.recorded, m)
  | .reaping =>
    match m.statusOf s.process with
    | some status =>
      if withExit then
        some (.exited status.code?, ((m.forget s.process).release s.output).release s.errors)
      else none
    | none => none
  | .reading =>
    let p := m.pipe s.output
    let line := p.content.takeWhile (· ≠ '\n')
    let octets := Octets.toBytes ((Text.stripSuffix? ['\r'] line).getD line)
    if line.length < p.content.length then
      some (.line octets, m.setPipe s.output { p with content := p.content.drop (line.length + 1) })
    else if m.isFed s.output then none
    else if line.isEmpty then some (.ended, m)
    else some (.line octets, m.setPipe s.output { p with content := [] })

/-- The next thing on the machine as it is of which the manager takes notice. -/
def noticed? (withExit : Bool) (h : Hosted) (m : Machine) : Option (Nat × Output × Machine) :=
  match h.queue.manager.session?, h.started with
  | some l, some s => (nextOutput withExit l s m).map (s.process, ·)
  | _, _ => none

/-- The manager is told of something that a process has done. The time allowed goes on. -/
def tell (h : Hosted) (n : Nat × Output × Machine) : Hosted :=
  let (process, o, m) := n
  let (q, effects) := h.queue.hear (.output process o)
  { h with queue := q, machine := m, pending := h.pending ++ effects }

/-! ### Going on -/

/-- What goes on by itself on the machine as it is: the writing of a line, or what a process does of
which the manager takes notice. -/
def stir? (h : Hosted) : Option Hosted :=
  match h.pour? with
  | some h => some h
  | none => (h.noticed? true h.machine).map h.tell

/-- The time allowed for the stage is over. -/
def isLate (h : Hosted) : Bool :=
  h.deadline.any fun d => d ≤ h.machine.now

/-- Time passes, a millisecond at least, until something goes on, or until the time allowed is over. -/
def pass (h : Hosted) : Hosted :=
  let m := h.machine.waitUntil h.deadline fun m => ({ h with machine := m }.stir?).isSome
  { h with machine := { m with now := max m.now (h.machine.now + 1) } }

/-- The next step while a caller waits or is served; nothing when nobody is, or when nothing will
come any more. -/
def next (h : Hosted) : Option Hosted :=
  match h.pending with
  | e :: es => some ({ h with pending := es }.perform e)
  | [] =>
    match h.queue.proceed with
    | some s => some (h.step s)
    | none =>
      if h.queue.serving.isNone then none
      else match h.stir? with
        | some h => some h
        | none =>
          if h.isLate then some (h.hear .expired)
          else
            let h := h.pass
            if h.deadline.isNone && h.stir?.isNone && h.machine.isQuiet then none else some h

/-- Steps are taken until nobody is served any more. Nothing comes of it if somebody is served for
ever. -/
def goOn (h : Hosted) : Option Hosted :=
  match h.next with
  -- applied by a tactic, the recursion holds no note of its place in the file
  | some h => by apply goOn; exact h
  | none => if h.queue.serving.isNone then some h else none
partial_fixpoint

/-- At most so many things are left that a process may do of which the manager takes notice, if the
process does nothing but what it has done already. -/
def unheard (h : Hosted) : Nat :=
  match h.queue.manager.session?, h.started with
  | some l, some s => l.reader.left (h.machine.pipe s.output).content.length
  | _, _ => 0

/-- At most so many things that processes have done already are told to the manager. -/
def listenFor (withExit : Bool) : (things : Nat) → Hosted → Hosted
  | 0, h => h
  | n + 1, h =>
    match h.noticed? withExit h.machine with
    | none => h
    | some m => listenFor withExit n (h.tell m)

/-- All that processes have done already is told to the manager: the lines that they have written,
and their exits if `withExit`. -/
def listen (withExit : Bool) (h : Hosted) : Hosted :=
  listenFor withExit h.unheard h

/-- A caller comes. -/
def submit (h : Hosted) (ticket : Nat) (d : Demand) : Hosted :=
  { h with queue := h.queue.submit ticket d }

/-- All callers are served. What they get is in `outcomes`, in the order in which they got it. -/
def complete (h : Hosted) : Option Hosted :=
  h.goOn.map (listen false)

/-- One caller comes and is served. -/
def call (h : Hosted) (d : Demand) : Option (Outcome × Hosted) :=
  ({ h with outcomes := [] }.submit 0 d).complete.bind fun h =>
    (h.outcomes.lookup 0).map (·, h)

/-- Time passes, so many milliseconds at most, until the process has left, and the manager is told. -/
def awaitExit (h : Hosted) (limit : Nat) : Hosted :=
  match h.queue.manager.live, h.started with
  | some l, some s =>
    if l.slot.hasExited then h
    else
      let m := h.machine.waitUntil (some (h.machine.now + limit)) fun m =>
        (m.statusOf s.process).isSome && (!m.isFed s.output || !l.reader.isReading)
      listen true { h with machine := m }
  | _, _ => h

/-- The queue is given up: its process is killed and its script removed. -/
def giveUp (h : Hosted) : Machine :=
  let m := match h.started with
    | some s => ((h.machine.kill s.process).forget s.process).release s.input
    | none => h.machine
  match h.queue.manager.bundledScript with
  | none => m
  | some path =>
    { m with files :=
        (m.files.remove h.site.directory (Octets.ofText path)).toOption.getD m.files }

end Hosted

end Session

end NotebookEngine
