import NotebookEngine.Config
import NotebookEngine.Session.Slot
import NotebookEngine.Text.Path
import NotebookEngine.Text.Utf8

/-!
# The manager of interpreter sessions

A manager owns at most one session and works on at most one operation. It is a machine that is
driven from outside: `Manager.receive` takes what happens to it (`Event`), `Manager.proceed` does
the next step of the operation that needs no waiting, and both say what is to be done to the
process (`Action`). Between two steps of an operation any number of events may come in.

An operation is suspended in a `Stage`. `Stage.allowance` is the time it may stay there.
-/

namespace NotebookEngine

namespace Session

/-! ### Operations -/

/-- What a caller asks of the manager. -/
inductive Operation where
  | start (runtime : Text)
  | execute (code cellId runtime : Text)
  | restart
  | shutdown
deriving DecidableEq, Repr

/-- What the manager answers. -/
inductive Answer where
  | done
  | result (r : CellResult)
  | failed (e : EngineError)
deriving DecidableEq

/-- What a session is started for. -/
inductive Purpose where
  | start
  | execute (code cellId : Text)
deriving DecidableEq, Repr

/-- What follows when a session is closed. -/
inductive Sequel where
  | answer (a : Answer)
  | start (runtime : Text) (purpose : Purpose)
deriving DecidableEq

/-! ### Sessions -/

/-- What the reader of a session's output is at. The reading stops at the end of the output, at
octets that are no text, and when the process is killed. -/
inductive Reader where
  /-- Lines count. -/
  | reading
  /-- The process must leave and be reaped. -/
  | reaping
  /-- The process has left with a code, and these parts of its exit are still to be recorded. -/
  | recording (code : Option Int) (left : List ExitPart)
deriving DecidableEq, Repr

namespace Reader

/-- Lines still count. -/
def isReading : Reader → Bool
  | .reading => true
  | _ => false

/-- The process is reaped. -/
def hasReaped : Reader → Bool
  | .recording _ _ => true
  | _ => false

/-- The exit is recorded in all its parts. -/
def isDone : Reader → Bool
  | .recording _ [] => true
  | _ => false

/-- The output is not read any longer. -/
def stop : Reader → Reader
  | .reading => .reaping
  | r => r

/-- At most so many things are left to be noticed if so many octets are left to be read. -/
def left (octets : Nat) : Reader → Nat
  | .reading => octets + ExitPart.all.length + 2
  | .reaping => ExitPart.all.length + 1
  | .recording _ parts => parts.length

end Reader

/-- A session: its runtime, its process, the reader of its output, and what the two share. -/
structure Live where
  runtime : Text
  process : Nat
  reader : Reader := .reading
  slot : Slot := {}

/-- Where an operation is suspended. -/
inductive Stage where
  /-- No operation is under way. -/
  | idle
  /-- The session is closed; the sequel is next. -/
  | closed (next : Sequel)
  /-- The request to shut down is being written. -/
  | asking (leaving : Live) (next : Sequel)
  /-- The input of the session is closed and its process may leave by itself. -/
  | leaving (leaving : Live) (next : Sequel)
  /-- The process is killed and must be reaped. -/
  | killed (leaving : Live) (next : Sequel)
  /-- The script is being put in place. -/
  | preparing (runtime : Text) (purpose : Purpose)
  /-- The process is being started. -/
  | spawning (runtime : Text) (purpose : Purpose)
  /-- The session must announce itself. -/
  | greeting (purpose : Purpose)
  /-- A call is about to begin. -/
  | calling (code cellId : Text)
  /-- The request of a call is being written. -/
  | sending
  /-- The reply to a call must come. -/
  | awaiting

/-- What a process does that the manager takes notice of. -/
inductive Output where
  | line (octets : Bytes)
  /-- There will be no more lines. -/
  | ended
  /-- The process has left, its output ended or not read any more, and is reaped. -/
  | exited (code : Option Int)
  /-- The next part of the exit is recorded. -/
  | recorded
deriving DecidableEq

/-- What happens to a manager from outside. -/
inductive Event where
  | call (op : Operation)
  /-- The script is in place, or cannot be. -/
  | prepared (script : Except Host.Fault Text)
  /-- The process was started, or could not be. -/
  | spawned (process : Except Host.Fault Nat)
  /-- The line was written, or could not be. -/
  | written (ok : Bool)
  /-- The time allowed for the stage is over. -/
  | expired
  | output (process : Nat) (o : Output)

/-- What a manager does. -/
inductive Action where
  /-- Put the bundled script in place. -/
  | prepare
  | spawn (runtime : Text) (arguments : List Text)
  | write (line : Text)
  | closeInput
  | kill
  | answer (a : Answer)
deriving DecidableEq

/-- The session after its process has done something. Lines count as long as the output is read,
the exit once it is not. -/
def Live.notice (l : Live) : Output → Live
  | .line octets =>
    match l.reader, Utf8.decode? octets with
    | .reading, some line => { l with slot := l.slot.readLine line }
    | .reading, none => { l with reader := .reaping }
    | _, _ => l
  | .ended => { l with reader := l.reader.stop }
  | .exited code =>
    match l.reader with
    | .reaping => { l with reader := .recording code ExitPart.all }
    | _ => l
  | .recorded =>
    match l.reader with
    | .recording code (p :: left) =>
      { l with reader := .recording code left, slot := l.slot.record code p }
    | _ => l

/-- The session after a process has done something, which counts if it is the session's own. -/
def Live.hear (l : Live) (process : Nat) (o : Output) : Live :=
  if l.process = process then l.notice o else l

/-- A manager: its settings, its session, the script it has put in place, and its stage. -/
structure Manager where
  config : KernelConfig
  live : Option Live := none
  /-- The runtime that a restart would use. -/
  runtime : Option Text := none
  bundledScript : Option Text := none
  stage : Stage := .idle

/-- The time an operation may stay in a stage. -/
def Stage.allowance (c : KernelConfig) : Stage → Option Nat
  | .greeting _ => some c.startupTimeout
  | .awaiting => some c.requestTimeout
  | .leaving _ _ => some c.shutdownGrace
  | _ => none

namespace Manager

/-! ### What callers see -/

/-- A process is running and has announced itself. -/
def isAlive (m : Manager) : Bool :=
  m.live.any fun l => l.slot.isAlive

/-- The session has announced itself and not acknowledged a shutdown. -/
def isReady (m : Manager) : Bool :=
  m.live.any fun l => l.slot.ready

/-- The process of the session, unless it is known to have left. -/
def process? (m : Manager) : Option Nat :=
  (m.live.filter fun l => !l.slot.hasExited).map Live.process

/-- The session whose process the manager listens to: the one it holds, or the one it is closing. -/
def session? (m : Manager) : Option Live :=
  match m.stage with
  | .asking l _ | .leaving l _ | .killed l _ => some l
  | _ => m.live

/-! ### Steps -/

/-- A step: the manager after it, and what it does. -/
abbrev Step := Manager × List Action

/-- The manager in another stage, with what it does on the way. -/
def goDoing (m : Manager) (s : Stage) (actions : List Action) : Step :=
  ({ m with stage := s }, actions)

/-- The manager in another stage. -/
def goTo (m : Manager) (s : Stage) : Step :=
  m.goDoing s []

/-- The operation is over. -/
def finish (m : Manager) (a : Answer) : Step :=
  m.goDoing .idle [.answer a]

/-- The session, if there is one, is closed before the sequel. A process that has not left is asked
to leave; the runtime is forgotten. -/
def close (m : Manager) (next : Sequel) : Step :=
  let left := { m with live := none, runtime := none }
  match m.live with
  | none => left.goTo (.closed next)
  | some l =>
    if l.slot.hasExited then left.goDoing (.leaving l next) [.closeInput]
    else left.goDoing (.asking l next) [.write Request.shutdown.line]

/-- A process is started with a script. -/
def spawn (m : Manager) (runtime : Text) (purpose : Purpose) (script : Text) : Step :=
  m.goDoing (.spawning runtime purpose)
    [.spawn runtime (m.config.interpreterArguments ++ [script])]

/-- The script is put in place unless there is one. -/
def prepare (m : Manager) (runtime : Text) (purpose : Purpose) : Step :=
  match m.config.script, m.bundledScript with
  | some script, _ => m.spawn runtime purpose script
  | none, some script => m.spawn runtime purpose script
  | none, none => m.goDoing (.preparing runtime purpose) [.prepare]

/-- The session is closed; the sequel begins. -/
def follow (m : Manager) : Sequel → Step
  | .answer a => m.finish a
  | .start runtime purpose => m.prepare runtime purpose

/-- The session has announced itself. -/
def greeted (m : Manager) : Purpose → Step
  | .start => m.finish .done
  | .execute code cellId => m.goTo (.calling code cellId)

/-- A call begins, unless the process has left. -/
def beginCall (m : Manager) (code cellId : Text) : Step :=
  match m.live with
  | none => m.finish (.failed .kernelNotRunning)
  | some l =>
    match l.slot.begin? cellId with
    | .error e => m.finish (.failed e)
    | .ok slot =>
      ({ m with live := some { l with slot := slot }, stage := .sending },
        [.write (Request.execute code cellId).line])

/-- The call is over. -/
def endCall (m : Manager) (l : Live) (a : Answer) : Step :=
  { m with live := some { l with slot := l.slot.abandon } }.finish a

/-- The answer of a reply. -/
def answerOf : Reply → Answer
  | .ok r => .result r
  | .error e => .failed e

/-- The next step of the operation, if it need not wait. -/
def proceed (m : Manager) : Option Step :=
  match m.stage, m.live with
  | .closed next, _ => some (m.follow next)
  | .leaving l next, _ | .killed l next, _ =>
    if l.reader.isDone then some (m.goTo (.closed next)) else none
  | .calling code cellId, _ => some (m.beginCall code cellId)
  | .greeting purpose, some l =>
    match l.slot.handshake with
    | .waiting => none
    | .done => some (m.greeted purpose)
    | .lost => some (m.close (.answer (.failed l.slot.exitError)))
  | .awaiting, some l =>
    match l.slot.call with
    | .pending _ | .taken => none
    | .answered r => some (m.endCall l (answerOf r))
    | .none => some (m.endCall l (.failed l.slot.exitError))
  | _, _ => none

/-- The time allowed for the stage is over, and nothing that was waited for has come. -/
def expire (m : Manager) : Step :=
  match m.stage, m.live with
  | .greeting _, _ =>
    m.close (.answer (.failed (.kernelStartup (.silent m.config.startupTimeout))))
  | .awaiting, some l => m.endCall l (.failed (.executionTimeout m.config.requestTimeout))
  | .leaving l next, _ =>
    m.goDoing (.killed { l with reader := l.reader.stop } next)
      (if l.reader.hasReaped then [] else [.kill])
  | _, _ => (m, [])

/-- The runtime that is known is the one wanted. -/
def knows (m : Manager) (runtime : Text) : Bool :=
  m.runtime.any fun known => Text.SamePath known runtime

/-- An idle manager takes up an operation. A session that is alive with the runtime wanted is
kept. -/
def take (m : Manager) : Operation → Step
  | .start runtime => m.close (.start runtime .start)
  | .execute code cellId runtime =>
    if m.isAlive && m.knows runtime then m.goTo (.calling code cellId)
    else m.close (.start runtime (.execute code cellId))
  | .restart =>
    match m.runtime with
    | none => m.finish (.failed .noKnownRuntime)
    | some runtime => m.close (.start runtime .start)
  | .shutdown => m.close (.answer .done)

/-- The process of a number has done something; only the session of that process notices. -/
def notice (m : Manager) (process : Nat) (o : Output) : Manager :=
  match m.stage with
  | .asking l next => { m with stage := .asking (l.hear process o) next }
  | .leaving l next => { m with stage := .leaving (l.hear process o) next }
  | .killed l next => { m with stage := .killed (l.hear process o) next }
  | _ => { m with live := m.live.map (·.hear process o) }

/-- The manager after an event. What does not belong to its stage changes nothing. -/
def receive (m : Manager) : Event → Step
  | .call op =>
    match m.stage with
    | .idle => m.take op
    | _ => (m, [])
  | .prepared script =>
    match m.stage, script with
    | .preparing runtime purpose, .ok path =>
      { m with bundledScript := some path }.spawn runtime purpose path
    | .preparing _ _, .error f => m.finish (.failed (.io f))
    | _, _ => (m, [])
  | .spawned process =>
    match m.stage, process with
    | .spawning runtime purpose, .ok n =>
      { m with live := some { runtime, process := n }, runtime := some runtime }.goTo
        (.greeting purpose)
    | .spawning runtime _, .error f =>
      m.finish (.failed (.kernelStartup (.spawn runtime f)))
    | _, _ => (m, [])
  | .written _ =>
    match m.stage with
    | .asking l next => m.goDoing (.leaving l next) [.closeInput]
    | .sending => m.goTo .awaiting
    | _ => (m, [])
  | .expired => m.proceed.getD m.expire
  | .output process o => (m.notice process o, [])

end Manager

end Session

end NotebookEngine
