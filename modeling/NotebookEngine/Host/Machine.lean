import NotebookEngine.Host.Process

/-!
# The machine

Processes that share files, pipes and a clock. `Machine.step` lets one process do the next thing it
does, if it need not wait; `Machine.settle` goes on until all processes wait; `Machine.waitUntil`
lets time pass from one waking to the next. Computing takes no time.
-/

namespace NotebookEngine

namespace Host

/-- A machine: its clock, its files, its pipes, its processes, and the programs it provides. -/
structure Machine where
  now : Nat := 0
  files : Files := {}
  pipes : Array Pipe := #[]
  descriptions : Array Description := #[]
  processes : List Process := []
  nextProcess : Nat := 1000
  programs : Octets → Program

namespace Machine

/-! ### Numbers -/

/-- The signal that ends a process without fail. -/
def killSignal : Nat :=
  9

/-- The signal to a process that writes to a pipe which nobody reads. -/
def pipeSignal : Nat :=
  13

/-- The numbers from here on stay with a process and not with the program it becomes. -/
def keptNumbers : Nat :=
  10

/-- The longest argument of a program. -/
def longestArgument : Nat :=
  131071

/-- The most octets a device gives at once. -/
def deviceBlock : Nat :=
  4096

/-- How many octets a pipe holds. -/
def pipeCapacity : Nat :=
  65536

/-- What the signals do whose usual effect is not to end a process: nothing. -/
def harmlessSignals : List Nat :=
  [17, 18, 19, 20, 21, 22, 23, 28]

/-! ### Processes and handles -/

/-- The process of a number. -/
def process? (m : Machine) (id : Nat) : Option Process :=
  m.processes.find? fun p => p.id = id

/-- The machine with a process in another state. -/
def setProcess (m : Machine) (p : Process) : Machine :=
  { m with processes := m.processes.map fun q => if q.id = p.id then p else q }

/-- Some process holds a handle. -/
def isHeld (m : Machine) (h : Handle) : Bool :=
  m.processes.any fun p => p.handles.any fun e => e.2 = h

/-- The pipe of a number. -/
def pipe (m : Machine) (n : Nat) : Pipe :=
  m.pipes[n]?.getD {}

/-- The machine with a pipe in another state. -/
def setPipe (m : Machine) (n : Nat) (p : Pipe) : Machine :=
  { m with pipes := m.pipes.setIfInBounds n p }

/-- Something more may be written to a pipe. -/
def isFed (m : Machine) (n : Nat) : Bool :=
  (m.pipe n).hostWrites || m.isHeld (.writer n)

/-- What is written to a pipe may be read. -/
def isDrained (m : Machine) (n : Nat) : Bool :=
  (m.pipe n).hostReads || m.isHeld (.reader n)

/-- How many octets more a pipe takes from the host. -/
def room (m : Machine) (n : Nat) : Nat :=
  pipeCapacity - (m.pipe n).content.length

/-! ### The end of processes -/

/-- A process ends: its files are closed, its children are left to nobody, and it is forgotten if
nobody waits for it. -/
def finish (m : Machine) (id : Nat) (status : ExitStatus) : Machine :=
  let ended := m.processes.map fun p =>
    if p.id = id then { p with handles := [], waking := none, status := some status }
    else if p.parent = .process id then { p with parent := .nobody }
    else p
  { m with processes := ended.filter fun p => p.parent ≠ .nobody || p.status.isNone }

/-- A process gets a signal. -/
def deliver (m : Machine) (p : Process) (signal : Nat) : Machine :=
  if signal = 0 then m
  else if signal = killSignal then m.finish p.id (.signal signal)
  else match p.disposition signal with
    | .ignored => m
    | .caught => m.setProcess { p with caught := p.caught ++ [signal] }
    | .usual =>
      if harmlessSignals.contains signal then m else m.finish p.id (.signal signal)

/-! ### Programs -/

/-- The interpreter and its argument in the first line of a script. -/
def interpreter? (content : Octets) : Option (Octets × Option Octets) := do
  let line ← Text.stripPrefix? ['#', '!'] content
  let isBlank (c : Char) : Bool := c = ' ' || c = '\t'
  let line := (line.takeWhile (· ≠ '\n')).dropWhile isBlank
  let name := line.takeWhile fun c => !isBlank c
  let argument := ((line.drop name.length).dropWhile isBlank).reverse.dropWhile isBlank |>.reverse
  if name.isEmpty then none
  else some (name, if argument.isEmpty then none else some argument)

/-- The behaviour of the program in a file; a script is run by its interpreter, which may be a
script itself. -/
def load (m : Machine) (here : Path) (environment : Environment) :
    (depth : Nat) → (path : Octets) → (arguments : List Octets) → Except Fault Behaviour
  | 0, _, _ => .error .badExecutable
  | depth + 1, path, arguments => do
    match ← m.files.find here path with
    | (_, .program name) => .ok (m.programs name arguments environment)
    | (_, .file mode content) =>
      if !Files.isRunnable mode then .error .accessDenied
      else match interpreter? content with
        | none => .error .badExecutable
        | some (name, argument) =>
          load m here environment depth name
            (name :: argument.toList ++ path :: arguments.drop 1)
    | _ => .error .accessDenied

/-- How many interpreters may stand behind one another. -/
def interpreterDepth : Nat :=
  5

/-- The behaviour of a program with its arguments, or why it cannot be run. -/
def program (m : Machine) (here : Path) (path : Octets) (arguments : List Octets)
    (environment : Environment) : Except Fault Behaviour :=
  if arguments.any fun a => longestArgument < a.length then .error .argumentsTooLong
  else m.load here environment interpreterDepth path arguments

/-! ### Answers to requests -/

/-- Reading from what is there. -/
def takeFrom (line : Bool) (content : Octets) : Octets × Octets :=
  if line then
    let begun := content.takeWhile (· ≠ '\n')
    let n := if begun.length < content.length then begun.length + 1 else begun.length
    (content.take n, content.drop n)
  else (content, [])

/-- Reading from a handle, if one need not wait. -/
def readFrom (m : Machine) (h : Handle) (line : Bool) : Option (Except Fault Octets × Machine) :=
  match h with
  | .device .null => some (.ok [], m)
  | .device .zero => some (.ok (List.replicate deviceBlock '\x00'), m)
  | .writer _ => some (.error .badDescriptor, m)
  | .reader n =>
    let p := m.pipe n
    let mayGrow := !p.content.contains '\n' && p.content.length < pipeCapacity
    if m.isFed n && (p.content.isEmpty || (line && mayGrow)) then none
    else
      let (taken, rest) := takeFrom line p.content
      some (.ok taken, m.setPipe n { p with content := rest })
  | .file n =>
    match m.descriptions[n]? with
    | some d =>
      if d.access ≠ .reading then some (.error .badDescriptor, m)
      else match m.files.nodes[d.node]? with
        | some (.file _ content) =>
          let (taken, _) := takeFrom line (content.drop d.offset)
          some (.ok taken, { m with
            descriptions := m.descriptions.setIfInBounds n
              { d with offset := d.offset + taken.length } })
        | some .directory => some (.error .isDirectory, m)
        | _ => some (.ok [], m)
    | none => some (.error .badDescriptor, m)

/-- The content of a file after octets were written at a place in it. -/
def overwrite (content : Octets) (offset : Nat) (octets : Octets) : Octets :=
  let before := content.take offset
  before ++ List.replicate (offset - before.length) '\x00' ++ octets
    ++ content.drop (offset + octets.length)

/-- Writing to a handle. -/
def writeTo (m : Machine) (h : Handle) (octets : Octets) : Except Fault Unit × Machine :=
  match h with
  | .device _ => (.ok (), m)
  | .reader _ => (.error .badDescriptor, m)
  | .writer n =>
    if m.isDrained n then
      let p := m.pipe n
      (.ok (), m.setPipe n { p with content := p.content ++ octets })
    else (.error .brokenPipe, m)
  | .file n =>
    match m.descriptions[n]? with
    | some d =>
      if d.access = .reading then (.error .badDescriptor, m)
      else match m.files.nodes[d.node]? with
        | some (.file mode content) =>
          let offset := if d.access = .appending then content.length else d.offset
          (.ok (), { m with
            files := m.files.setNode d.node (.file mode (overwrite content offset octets))
            descriptions := m.descriptions.setIfInBounds n
              { d with offset := offset + octets.length } })
        | _ => (.ok (), m)
    | none => (.error .badDescriptor, m)

/-- The mode of a file made by a process. -/
def usualMode : Nat :=
  420

/-- Opening a file. -/
def openAt (m : Machine) (here : Path) (path : Octets) (access : Access) :
    Except Fault (Machine × Handle) := do
  let describe (m : Machine) (node : Nat) : Machine × Handle :=
    ({ m with descriptions := m.descriptions.push ⟨node, 0, access⟩ },
      .file m.descriptions.size)
  match access with
  | .reading =>
    match ← m.files.find here path with
    | (_, .device d) => .ok (m, .device d)
    | (p, _) =>
      match m.files.number? p with
      | some node => .ok (describe m node)
      | none => .error .isDirectory
  | _ =>
    let (files, target) ← m.files.openForWriting here path usualMode (access = .writing)
    match target with
    | .device d => .ok (m, .device d)
    | .node n => .ok (describe { m with files } n)

/-- The children of a process that have ended. -/
def endedChildren (m : Machine) (id : Nat) (child : Option Nat) : List Process :=
  m.processes.filter fun p =>
    p.parent = .process id && p.status.isSome && (child.isNone || child = some p.id)

/-- Waiting for a child: its end, or that there is none, or nothing yet. -/
def waitFor (m : Machine) (id : Nat) (child : Option Nat) :
    Option (Option (Nat × ExitStatus) × Machine) :=
  let isAwaited (p : Process) : Bool :=
    p.parent = .process id && (child.isNone || child = some p.id)
  if !m.processes.any isAwaited then some (none, m)
  else match m.processes.find? fun p => isAwaited p && p.status.isSome with
    | none => none
    | some p =>
      some (p.status.map (p.id, ·),
        { m with processes := m.processes.filter fun q => q.id ≠ p.id })

/-- The machine after a change of its files, with the answer to who asked for it. -/
def changed (m : Machine) : Except Fault Files → Except Fault Unit × Machine
  | .ok files => (.ok (), { m with files })
  | .error f => (.error f, m)

/-- The answer to a request of a process and the machine after it, if the process need not wait. -/
def serve (m : Machine) (p : Process) : (r : Request) → Option (r.Answer × Machine)
  | .read file line =>
    match p.handle? file with
    | none => some (.error .badDescriptor, m)
    | some h => m.readFrom h line
  | .write file octets =>
    match p.handle? file with
    | none => some (.error .badDescriptor, m)
    | some h => some (m.writeTo h octets)
  | .openFile path access =>
    match m.openAt p.directory path access with
    | .error f => some (.error f, m)
    | .ok (m, h) =>
      let number := p.freeNumber 0
      some (.ok number, m.setProcess (p.withHandle number h))
  | .close file => some ((p.handle? file).isSome, m.setProcess (p.without file))
  | .copyTo file target =>
    match p.handle? file with
    | none => some (false, m)
    | some h => some (true, m.setProcess (p.withHandle target h))
  | .keep file =>
    match p.handle? file with
    | none => some (none, m)
    | some h =>
      let number := p.freeNumber keptNumbers
      some (some number, m.setProcess (p.withHandle number h))
  | .pipe =>
    let n := m.pipes.size
    let source := p.freeNumber 0
    let p := p.withHandle source (.reader n)
    let target := p.freeNumber 0
    some ((source, target),
      { m with pipes := m.pipes.push {} }.setProcess (p.withHandle target (.writer n)))
  | .execute path arguments environment =>
    match m.program p.directory path arguments environment with
    | .error f => some (f, m)
    | .ok _ => none
  | .wait child => m.waitFor p.id child
  | .sleep _ => some ((), m.setProcess { p with waking := none })
  | .signal id number =>
    match m.process? id with
    | none => some (false, m)
    | some q => some (true, if q.status.isSome then m else m.deliver q number)
  | .dispose signal disposition =>
    some ((), m.setProcess { p with
      dispositions := (signal, disposition) :: p.dispositions.filter fun d => d.1 ≠ signal })
  | .caughtSignals => some (p.caught, m.setProcess { p with caught := [] })
  | .self => some (p.id, m)
  | .inspect path => some ((m.files.find p.directory path).map Prod.snd, m)
  | .list path =>
    match m.files.find p.directory path with
    | .ok (q, .directory) => some (.ok (m.files.listing q), m)
    | .ok _ => some (.error .notDirectory, m)
    | .error f => some (.error f, m)
  | .makeDirectory path => some (m.changed (m.files.makeDirectory p.directory path))
  | .removeDirectory path => some (m.changed (m.files.removeDirectory p.directory path))
  | .remove path => some (m.changed (m.files.remove p.directory path))
  | .rename source target => some (m.changed (m.files.rename p.directory source target))
  | .changeMode path mode => some (m.changed (m.files.changeMode p.directory path mode))
  | .changeDirectory path =>
    match m.files.find p.directory path with
    | .ok (q, .directory) => some (.ok (), m.setProcess { p with directory := q })
    | .ok _ => some (.error .notDirectory, m)
    | .error f => some (.error f, m)
  | .currentDirectory => some (p.directory, m)

/-! ### Steps -/

/-- A process goes on behaving. -/
def goOn (m : Machine) (id : Nat) (b : Behaviour) : Machine :=
  match m.process? id with
  | none => m
  | some p => if p.status.isSome then m else m.setProcess { p with behaviour := b }

/-- A child begins beside its parent. -/
def branch (m : Machine) (p : Process) (child : Behaviour) : Machine :=
  let q : Process :=
    { p with
      id := m.nextProcess
      parent := .process p.id
      behaviour := child
      dispositions := p.uncaught
      caught := [] }
  { m with processes := m.processes ++ [q], nextProcess := m.nextProcess + 1 }

/-- A process becomes another program. -/
def become (m : Machine) (p : Process) (b : Behaviour) : Machine :=
  m.setProcess { p with
    behaviour := b
    handles := p.handles.filter fun h => h.1 < keptNumbers
    dispositions := p.uncaught }

/-- A process asks for something: the machine with its answer, if it need not wait. -/
def attend (m : Machine) (p : Process) (r : Request) (next : r.Answer → Behaviour) :
    Option Machine :=
  match m.serve p r with
  | some (answer, m) => some (m.goOn p.id (next answer))
  | none =>
    match r with
    | .execute path arguments environment =>
      (m.program p.directory path arguments environment).toOption.map (m.become p)
    | _ => none

/-- The next thing that a process does, unless it waits. -/
def step (m : Machine) (p : Process) : Option Machine :=
  if p.status.isSome then none
  else match p.behaviour with
    | .ended code => some (m.finish p.id (.code (code % 256)))
    | .pause next => some (m.setProcess { p with behaviour := next () })
    | .spin => none
    | .fork child next =>
      some ((m.branch p child).setProcess { p with behaviour := next m.nextProcess })
    | .ask (.sleep ms) next =>
      match p.waking with
      | none => some (m.setProcess { p with waking := some (m.now + ms) })
      | some t =>
        if t ≤ m.now then some (m.setProcess { p with waking := none, behaviour := next () })
        else none
    | .ask (.write file octets) next =>
      match m.serve p (.write file octets) with
      | some (.error .brokenPipe, m) =>
        match p.disposition pipeSignal with
        | .usual => some (m.finish p.id (.signal pipeSignal))
        | _ => some (m.goOn p.id (next (.error .brokenPipe)))
      | some (answer, m) => some (m.goOn p.id (next answer))
      | none => none
    | .ask r next => m.attend p r next

/-- A process does so many things at most, one after the other. -/
def turn (id : Nat) : (steps : Nat) → Machine → Bool × Machine
  | 0, m => (true, m)
  | n + 1, m =>
    match (m.process? id).bind m.step with
    | none => (false, m)
    | some m' => (true, (turn id n m').2)

/-- How many things a process does in one turn. -/
def turnLength : Nat :=
  4096

/-- Every process has a turn; whether any has done something. -/
def round (m : Machine) : Bool × Machine :=
  m.processes.foldl (fun (moved, m) p =>
    let (acted, m) := turn p.id turnLength m
    (moved || acted, m)) (false, m)

/-- Turns are given until all processes wait. -/
def settleIn : (rounds : Nat) → Machine → Machine
  | 0, m => m
  | n + 1, m =>
    let (moved, m) := m.round
    if moved then settleIn n m else m

/-- The most rounds that are given before time passes. -/
def settlingRounds : Nat :=
  100000

/-- The machine once all processes wait. -/
def settle (m : Machine) : Machine :=
  settleIn settlingRounds m

/-- No process does anything until something is done to it. -/
def isQuiet (m : Machine) : Bool :=
  m.processes.all fun p => (m.step p).isNone && p.waking.isNone

/-! ### Time -/

/-- The earlier of two times, of which either may be missing. -/
def earlier : Option Nat → Option Nat → Option Nat
  | some a, some b => some (min a b)
  | some a, none => some a
  | none, b => b

/-- The next time at which a process wakes. -/
def nextWaking (m : Machine) : Option Nat :=
  m.processes.foldl (fun t p => earlier t p.waking) none

/-- Time passes until something has come about, or until a time. -/
def waitIn (deadline : Option Nat) (stop : Machine → Bool) : (wakings : Nat) → Machine → Machine
  | 0, m => m
  | n + 1, m =>
    let m := m.settle
    if stop m then m
    else match m.nextWaking, deadline with
      | none, none => m
      | some t, some d =>
        if d ≤ t then { m with now := max m.now d }
        else waitIn deadline stop n { m with now := max m.now t }
      | some t, none => waitIn deadline stop n { m with now := max m.now t }
      | none, some d => { m with now := max m.now d }

/-- The most wakings that are waited for. -/
def wakingLimit : Nat :=
  100000

/-- Time passes until something has come about, or until a time. -/
def waitUntil (m : Machine) (deadline : Option Nat) (stop : Machine → Bool) : Machine :=
  waitIn deadline stop wakingLimit m

end Machine

end Host

end NotebookEngine
