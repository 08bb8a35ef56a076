import NotebookEngine.Shell.Builtin
import NotebookEngine.Shell.Expansion
import NotebookEngine.Shell.Parser

/-!
# Carrying out commands

The interpreter carries out commands one after the other. What is done next is a continuation of the
act under way, so that a command may end the shell from anywhere. The functions call one another; each
step they take is counted, and a shell that has taken too many computes for ever.
-/

namespace NotebookEngine

namespace Shell

open Host (Octets Request Path)

/-- Where the commands of a shell go on. -/
inductive Flow where
  /-- With the next command. -/
  | next
  /-- After so many repetitions. -/
  | leave (levels : Nat)
  /-- With the next round, after leaving one repetition less than so many. -/
  | again (levels : Nat)
  /-- After the function or the file. -/
  | back
deriving DecidableEq, Repr

/-- How a command is carried out. -/
structure Manner where
  /-- Failure is looked at by another command. -/
  isTested : Bool := false
  /-- Nothing comes after the command in its shell. -/
  isLast : Bool := false
deriving DecidableEq, Repr

namespace Manner

/-- The manner of a command that is not the last one. -/
def notLast (m : Manner) : Manner :=
  { m with isLast := false }

/-- The manner of a command whose failure another one looks at. -/
def tested : Manner :=
  { isTested := true }

end Manner

/-- The status of the last command is set. -/
def setStatus (code : Nat) : Run Unit :=
  modify fun s => { s with status := code }

/-- A repetition begins. -/
def enterLoop : Run Unit :=
  modify fun s => { s with loops := s.loops + 1 }

/-- A repetition is over. -/
def leaveLoop : Run Unit :=
  modify fun s => { s with loops := s.loops - 1 }

/-- So many repetitions are to be left, or gone on with: all that are under way at most. -/
def outOf (flow : Nat → Flow) (levels : Nat) : Run Flow := do
  setStatus 0
  let loops := (← get).loops
  return if loops = 0 then .next else flow (min levels loops)

/-- The number of an argument, as commands take it. -/
def argumentNumber? (a : Octets) : Option Nat :=
  if a.isEmpty || !a.all Char.isDigit then none else (String.ofList a).toNat?

/-! ### Redirections -/

/-- The wording of why a file was not opened. -/
def openingFault (direction : Direction) (f : Host.Fault) : Octets :=
  match f with
  | .notFound | .notDirectory =>
    if direction = .input then "No such file".toList else "Directory nonexistent".toList
  | f => f.words

/-- The way in which a redirection opens a file. -/
def Direction.access : Direction → Host.Access
  | .input => .reading
  | .output => .writing
  | .append => .appending

/-- A number leads where a newly opened one does, which is closed. -/
def settle (opened number : Nat) : Run Unit := do
  if opened ≠ number then
    let _ ← host (.copyTo opened number)
    let _ ← host (.close opened)

/-- A redirection is made; whether it could be. -/
def redirect (i : Interpreting) : Redirection → Run Bool
  | .file number direction target => do
    let path ← expandText i target
    match ← host (.openFile path direction.access) with
    | .ok opened =>
      settle opened number
      return true
    | .error f =>
      let verb := if direction = .input then "open" else "create"
      complain ("cannot ".toList ++ verb.toList ++ ' ' :: path ++ ": ".toList
        ++ openingFault direction f)
      return false
  | .copy number target => do
    let source ← expandText i target
    if source = ['-'] then
      let _ ← host (.close number)
      return true
    match argumentNumber? source with
    | none =>
      complain "Syntax error: Bad fd number".toList
      return false
    | some n =>
      if n = number || (← host (.copyTo n number)) then return true
      complain (source ++ ": Bad file descriptor".toList)
      return false
  | .document number content => do
    let text ← expandText i content
    let (source, target) ← host .pipe
    if !text.isEmpty then
      let _ ← host (.write target text)
    let _ ← host (.close target)
    settle source number
    return true

/-- The number that a redirection is about. -/
def Redirection.number : Redirection → Nat
  | .file n _ _ | .copy n _ | .document n _ => n

/-- A number that a redirection has changed, and where what it led to is kept. -/
abbrev Kept := Nat × Option Nat

/-- Numbers lead again where they did. -/
def restore : List Kept → Run Unit
  | [] => return
  | (number, kept) :: ks => do
    match kept with
    | some k =>
      let _ ← host (.copyTo k number)
      let _ ← host (.close k)
    | none =>
      let _ ← host (.close number)
    restore ks

/-- Redirections are made, and what they change is kept, the last first; nothing is left changed if
one cannot be made. -/
def redirectAll (i : Interpreting) : List Redirection → (kept : List Kept) →
    Run (Option (List Kept))
  | [], kept => return some kept
  | r :: rs, kept => do
    let k ← host (.keep r.number)
    let kept := (r.number, k) :: kept
    if ← redirect i r then redirectAll i rs kept
    else
      restore kept
      return none

/-- What was kept is kept no longer. -/
def forgetKept : List Kept → Run Unit
  | [] => return
  | (_, kept) :: rest => do
    match kept with
    | some k =>
      let _ ← host (.close k)
    | none => pure ()
    forgetKept rest

/-! ### Programs -/

/-- Why a program cannot be run, in words, and the status that tells it. -/
def programFault (f : Host.Fault) : Octets × Nat :=
  match f with
  | .notFound | .notDirectory => ("not found".toList, 127)
  | .nameTooLong => (f.words, 127)
  | f => (f.words, 126)

/-- A file that can be run is at a path. -/
def isProgram (path : Octets) : Run Bool := do
  match ← host (.inspect path) with
  | .ok (.file mode _) => return Host.Files.isRunnable mode
  | .ok (.program _) => return true
  | _ => return false

/-- The path of a program in one of the directories, or why there is none. -/
def findIn (name : Octets) : (directories : List Octets) → (denied : Bool) →
    Run (Except Host.Fault Octets)
  | [], denied => return .error (if denied then .accessDenied else .notFound)
  | d :: ds, denied => do
    let path := if d.isEmpty then name else d ++ '/' :: name
    if ← isProgram path then return .ok path
    match ← host (.inspect path) with
    | .ok _ => findIn name ds true
    | .error _ => findIn name ds denied

/-- The path of a program by its name. -/
def findProgram (name : Octets) : Run (Except Host.Fault Octets) := do
  if name.contains '/' then return .ok name
  findIn name (← get).searchPath false

/-- The state in which a copy of a shell begins: it waits for no signals, except those it ignores. -/
def State.branch (s : State) : State :=
  { s with traps := s.traps.filter fun t => t.1 ≠ 0 && t.2.isEmpty }

/-- The shell tells by which signal a child ended. -/
def tellSignal : ExitStatus → Run Unit
  | .code _ => return
  | .signal n => do
    if !Signal.isSilent n then
      let _ ← host (.write 2 (Signal.description n ++ ['\n']))

/-- The end of a child is waited for. -/
def await (child : Nat) : Run Nat := do
  match ← host (.wait (some child)) with
  | none => return 127
  | some (_, status) =>
    tellSignal status
    return Builtin.codeOf status

/-- The ends of children are waited for; the status of the last one is kept. -/
def awaitAll : List Nat → (status : Nat) → Run Nat
  | [], status => return status
  | child :: rest, _ => do
    let status ← await child
    awaitAll rest status

/-- What a command writes is read to its end. -/
def collect (file : Nat) : (steps : Nat) → Run Octets
  | 0 => spin
  | n + 1 => do
    match ← host (.read file false) with
    | .ok [] => return []
    | .ok part => return part ++ (← collect file n)
    | .error _ => return []

/-- The command as it is told when the shell tells what it does. -/
def trace (words : List Octets) : Run Unit := do
  if (← get).options.contains 'x' then
    let _ ← host (.write 2 ("+ ".toList ++ Text.join [' '] words ++ ['\n']))

/-- The variables get values for a while; what they had is returned. -/
def lend : List (Octets × Octets) → Run (List (Octets × Option Variable))
  | [] => return []
  | (name, value) :: rest => do
    let s ← get
    let old := s.bindings.lookup name
    set (s.putVariable name (some { value := some value, isExported := true }))
    return (← lend rest) ++ [(name, old)]

/-- The variables get back what they had. -/
def giveBack (old : List (Octets × Option Variable)) : Run Unit :=
  modify fun s => old.foldl (fun s v => s.putVariable v.1 v.2) s

/-- What a name stands for, in words, and whether it stands for anything. -/
def describeName (name : Octets) : Run (Octets × Bool) := do
  if reservedWords.contains name then return (name ++ " is a shell keyword".toList, true)
  if ((← get).functions.lookup name).isSome then
    return (name ++ " is a shell function".toList, true)
  if Builtin.specials.contains name then
    return (name ++ " is a special shell builtin".toList, true)
  if Builtin.isKnown name then return (name ++ " is a shell builtin".toList, true)
  match ← findProgram name with
  | .ok path =>
    if ← isProgram path then return (name ++ " is ".toList ++ path, true)
    return (name ++ ": not found".toList, false)
  | .error _ => return (name ++ ": not found".toList, false)

/-- Writes what names stand for. -/
def describeNames (names : List Octets) : Run Flow := do
  let mut missing := false
  for w in names do
    let (text, isFound) ← describeName w
    let _ ← Builtin.put (text ++ ['\n'])
    missing := missing || !isFound
  setStatus (if missing then 127 else 0)
  return .next

/-- What `command -v` writes about a name. -/
def pathOfName (name : Octets) : Run (Option Octets) := do
  if reservedWords.contains name || Builtin.isKnown name
      || ((← get).functions.lookup name).isSome then return some name
  match ← findProgram name with
  | .ok path => return if ← isProgram path then some path else none
  | .error _ => return none

/-! ### Commands -/

mutual

/-- What expansion needs of the interpreter. -/
def interpreting : (steps : Nat) → Interpreting
  | 0 => ⟨fun _ => spin, fun _ => spin⟩
  | n + 1 => ⟨outputOf n, abort n⟩

/-- The shell ends: first the commands for its end are carried out. -/
def endShell : (steps : Nat) → (code : Nat) → Run Flow
  | 0, _ => spin
  | n + 1, code => do
    let s ← get
    match s.traps.lookup 0 with
    | some action =>
      set { s with traps := s.traps.filter fun t => t.1 ≠ 0, status := code }
      let _ ← source n {} { rest := action, line := s.line }
      leaveProcess code
    | none => leaveProcess code

/-- The shell ends with a message about why. -/
def abort : (steps : Nat) → (message : Octets) → Run Unit
  | 0, _ => spin
  | n + 1, message => do
    complain message
    let _ ← endShell n 2

/-- What commands write. -/
def outputOf : (steps : Nat) → List Command → Run Octets
  | 0, _ => spin
  | n + 1, body => do
    let (reader, writer) ← host .pipe
    let child ← forkShell do
      let _ ← host (.close reader)
      settle writer 1
      branch n body
    let _ ← host (.close writer)
    let text ← collect reader 1000000
    let _ ← host (.close reader)
    let status ← await child
    modify fun s => { s with outputStatus := some status }
    return text

/-- Commands are carried out by a copy of the shell, which then ends. -/
def branch : (steps : Nat) → List Command → Run Nat
  | 0, _ => spin
  | n + 1, body => do
    modify State.branch
    let _ ← list n { isLast := true } body
    let _ ← endShell n (← get).status
    return 0

/-- Commands for signals that have come are carried out. -/
def attend : (steps : Nat) → Run Unit
  | 0 => spin
  | n + 1 => do
    if (← get).traps.any fun t => t.1 ≠ 0 && !t.2.isEmpty then
      let signals : List Nat ← host .caughtSignals
      for signal in signals do
        let s ← get
        match s.traps.lookup signal with
        | some action =>
          let _ ← source n {} { rest := action, line := s.line }
          setStatus s.status
        | none => pure ()

/-- The rest of a script is carried out, line by line. -/
def source : (steps : Nat) → Manner → Source → Run Flow
  | 0, _, _ => spin
  | n + 1, manner, script => do
    match script.next with
    | .error f =>
      modify fun s => { s with line := f.line }
      abort n f.message
      return .next
    | .ok none => return .next
    | .ok (some (body, rest)) =>
      let isLast := manner.isLast && (Source.afterSpace rest.rest).isEmpty
      match ← list n { manner with isLast } body with
      | .next => source n manner rest
      | flow => return flow

/-- Commands are carried out one after the other. -/
def list : (steps : Nat) → Manner → List Command → Run Flow
  | 0, _, _ => spin
  | _ + 1, _, [] => return .next
  | n + 1, manner, [c] => command n manner c
  | n + 1, manner, c :: cs => do
    match ← command n manner.notLast c with
    | .next => list n manner cs
    | flow => return flow

/-- A command that failed may end the shell. -/
def check : (steps : Nat) → Manner → Run Unit
  | 0, _ => spin
  | n + 1, manner => do
    attend n
    let s ← get
    if s.status ≠ 0 && !manner.isTested && s.options.contains 'e' then
      let _ ← endShell n s.status

/-- A command is carried out. -/
def command : (steps : Nat) → Manner → Command → Run Flow
  | 0, _, _ => spin
  | n + 1, manner, c => do
    pause
    match c with
    | .simple line assignments words redirections =>
      modify fun s => { s with line := line }
      let flow ← simple n manner assignments words redirections
      check n manner
      return flow
    | .redirected body _ redirections =>
      match ← redirectAll (interpreting n) redirections [] with
      | none =>
        setStatus 2
        check n manner
        return .next
      | some kept =>
        let flow ← command n manner.notLast body
        restore kept
        return flow
    | .group body => list n manner body
    | .subshell body =>
      let child ← forkShell (branch n body)
      setStatus (← await child)
      check n manner
      return .next
    | .choice test yes no =>
      match ← list n .tested test with
      | .next =>
        if (← get).status = 0 then list n manner yes
        else
          setStatus 0
          list n manner no
      | flow => return flow
    | .loop untilSuccess test body =>
      enterLoop
      let flow ← repetition n manner.notLast untilSuccess test body 0
      leaveLoop
      return flow
    | .iterate name words body =>
      let values ←
        match words with
        | none => pure (← get).arguments
        | some ws => expandWords (interpreting n) ws
      setStatus 0
      enterLoop
      let flow ← iteration n manner.notLast name values body
      leaveLoop
      return flow
    | .select subject arms =>
      let text ← expandText (interpreting n) subject
      selection n manner text arms
    | .define name body =>
      modify fun s => { s with
        functions := (name, body) :: s.functions.filter fun f => f.1 ≠ name
        status := 0 }
      return .next
    | .pipeline stages =>
      let children ← pipeline n none stages
      setStatus (← awaitAll children 0)
      check n manner
      return .next
    | .negated body =>
      let flow ← command n .tested body
      let s ← get
      setStatus (if s.status = 0 then 1 else 0)
      return flow
    | .both first second =>
      match ← command n .tested first with
      | .next => if (← get).status = 0 then command n manner second else return .next
      | flow => return flow
    | .either first second =>
      match ← command n .tested first with
      | .next => if (← get).status = 0 then return .next else command n manner second
      | flow => return flow
    | .background body =>
      let child ← forkShell do
        match ← host (.openFile "/dev/null".toList .reading) with
        | .ok opened => settle opened 0
        | .error _ => pure ()
        branch n [body]
      modify fun s => { s with background := some child, status := 0 }
      return .next

/-- The stages of a pipeline are started, each reading what the one before it writes. -/
def pipeline : (steps : Nat) → (input : Option Nat) → List Command → Run (List Nat)
  | 0, _, _ => spin
  | _ + 1, _, [] => return []
  | n + 1, input, [c] => do
    let child ← forkShell do
      match input with
      | some i => settle i 0
      | none => pure ()
      branch n [c]
    match input with
    | some i =>
      let _ ← host (.close i)
    | none => pure ()
    return [child]
  | n + 1, input, c :: cs => do
    let (reader, writer) ← host .pipe
    let child ← forkShell do
      let _ ← host (.close reader)
      match input with
      | some i => settle i 0
      | none => pure ()
      settle writer 1
      branch n [c]
    let _ ← host (.close writer)
    match input with
    | some i =>
      let _ ← host (.close i)
    | none => pure ()
    return child :: (← pipeline n (some reader) cs)

/-- Commands are repeated as long as a test says so. -/
def repetition : (steps : Nat) → Manner → (untilSuccess : Bool) → (test body : List Command) →
    (status : Nat) → Run Flow
  | 0, _, _, _, _, _ => spin
  | n + 1, manner, untilSuccess, test, body, status => do
    let goOn (status : Nat) : Run Flow := repetition n manner untilSuccess test body status
    match ← list n .tested test with
    | .next =>
      if ((← get).status = 0) = untilSuccess then
        setStatus status
        return .next
      match ← list n manner body with
      | .next | .again 0 | .again 1 => goOn (← get).status
      | .leave 0 | .leave 1 => return .next
      | .leave (k + 1) => return .leave k
      | .again (k + 1) => return .again k
      | .back => return .back
    | .again 0 | .again 1 => goOn (← get).status
    | .leave 0 | .leave 1 => return .next
    | .leave (k + 1) => return .leave k
    | .again (k + 1) => return .again k
    | .back => return .back

/-- Commands are repeated for each of the values of a variable. -/
def iteration : (steps : Nat) → Manner → (name : Octets) → (values : List Octets) →
    List Command → Run Flow
  | 0, _, _, _, _ => spin
  | _ + 1, _, _, [], _ => return .next
  | n + 1, manner, name, value :: values, body => do
    if (← get).isReadOnly name then abort n (name ++ ": is read only".toList)
    modify fun s => s.setVariable name value
    match ← list n manner body with
    | .next | .again 0 | .again 1 => iteration n manner name values body
    | .leave 0 | .leave 1 => return .next
    | .leave (k + 1) => return .leave k
    | .again (k + 1) => return .again k
    | .back => return .back

/-- The commands of the first arm are carried out that has a pattern which covers the text. -/
def selection : (steps : Nat) → Manner → (text : Octets) → List Arm → Run Flow
  | 0, _, _, _ => spin
  | _ + 1, _, _, [] => do
    setStatus 0
    return .next
  | n + 1, manner, text, (patterns, body) :: arms => do
    if ← anyCovers n text patterns then
      if body.isEmpty then setStatus 0
      list n manner body
    else selection n manner text arms

/-- One of the patterns covers the text. -/
def anyCovers : (steps : Nat) → (text : Octets) → List Word → Run Bool
  | 0, _, _ => spin
  | _ + 1, _, [] => return false
  | n + 1, text, w :: ws => do
    if (← expandPattern (interpreting n) w).covers text then return true
    anyCovers n text ws

/-- The values of assignments are worked out. -/
def assignedValues : (steps : Nat) → List (Octets × Word) → Run (List (Octets × Octets))
  | 0, _ => spin
  | _ + 1, [] => return []
  | n + 1, (name, w) :: rest => do
    let value ← expandText (interpreting n) w
    if (← get).isReadOnly name then abort n (name ++ ": is read only".toList)
    return (name, value) :: (← assignedValues n rest)

/-- Variables get the values of assignments, each before the next is worked out. -/
def assign : (steps : Nat) → List (Octets × Word) → Run (List Octets)
  | 0, _ => spin
  | _ + 1, [] => return []
  | n + 1, (name, w) :: rest => do
    let value ← expandText (interpreting n) w
    if (← get).isReadOnly name then abort n (name ++ ": is read only".toList)
    modify fun s => s.setVariable name value
    return (name ++ '=' :: value) :: (← assign n rest)

/-- A simple command is carried out: its words, its redirections, its assignments, and then what its
first word names. -/
def simple : (steps : Nat) → Manner → List (Octets × Word) → List Word → List Redirection →
    Run Flow
  | 0, _, _, _, _ => spin
  | n + 1, manner, assignments, words, redirections => do
    let i := interpreting n
    modify fun s => { s with outputStatus := none }
    let expanded ← expandWords i words
    match expanded with
    | [] =>
      match ← redirectAll i redirections [] with
      | none =>
        setStatus 2
        return .next
      | some kept =>
        trace (← assign n assignments)
        restore kept
        setStatus ((← get).outputStatus.getD 0)
        return .next
    | name :: arguments =>
      let isSpecial := Builtin.specials.contains name
      match ← redirectAll i redirections [] with
      | none =>
        setStatus 2
        if isSpecial then
          let _ ← endShell n 2
        return .next
      | some kept =>
        if isSpecial then
          let assigned ← assign n assignments
          trace (assigned ++ expanded)
          let flow ← builtin n manner name arguments
          -- What `exec` redirects stays so.
          if name = "exec".toList then forgetKept kept else restore kept
          return flow
        let values ← assignedValues n assignments
        trace (values.map (fun v => v.1 ++ '=' :: v.2) ++ expanded)
        let lent ← lend values
        let flow ←
          match (← get).functions.lookup name with
          | some body => call n body arguments
          | none =>
            if Builtin.isKnown name then builtin n manner name arguments
            else external n manner name arguments
        giveBack lent
        restore kept
        return flow

/-- A function is called. -/
def call : (steps : Nat) → (body : Command) → (arguments : List Octets) → Run Flow
  | 0, _, _ => spin
  | n + 1, body, arguments => do
    let s ← get
    set { s with arguments, hidden := [] :: s.hidden, loops := 0 }
    let flow ← command n {} body
    let t ← get
    giveBack (t.hidden.head?.getD [])
    modify fun t => { t with arguments := s.arguments, hidden := s.hidden, loops := s.loops }
    match flow with
    | .back => return .next
    | flow => return flow

/-- A program becomes what this process runs. -/
def become : (steps : Nat) → (told : Octets) → (name : Octets) → (arguments : List Octets) →
    Run Flow
  | 0, _, _, _ => spin
  | n + 1, told, name, arguments => do
    let refuse (f : Host.Fault) : Run Flow := do
      let (reason, code) := programFault f
      complain (told ++ name ++ ": ".toList ++ reason)
      endShell n code
    match ← findProgram name with
    | .error f => refuse f
    | .ok path =>
      match ← host (.execute path (name :: arguments) (← get).environment) with
      | .badExecutable =>
        -- A file that is no program is taken for a script.
        let s ← get
        set { s.branch with name := path, arguments, functions := [], hidden := [], traps := [] }
        match ← host (.openFile path .reading) with
        | .error f => refuse f
        | .ok file =>
          let text ← collect file 1000000
          let _ ← host (.close file)
          let _ ← source n {} { rest := text }
          endShell n (← get).status
      | f => refuse f

/-- A program is run by a child, or by this process if nothing comes after it. -/
def external : (steps : Nat) → Manner → (name : Octets) → (arguments : List Octets) → Run Flow
  | 0, _, _, _ => spin
  | n + 1, manner, name, arguments => do
    match ← findProgram name with
    | .error f =>
      complain (name ++ ": ".toList ++ (programFault f).1)
      setStatus 127
      return .next
    | .ok _ =>
      if manner.isLast && (← get).traps.isEmpty then become n [] name arguments
      else
        let child ← forkShell do
          modify State.branch
          let _ ← become n [] name arguments
          return 0
        setStatus (← await child)
        return .next

/-- A command of the shell itself is carried out. -/
def builtin : (steps : Nat) → Manner → (name : Octets) → (arguments : List Octets) → Run Flow
  | 0, _, _, _ => spin
  | n + 1, manner, name, arguments => do
    let misuse (message : Octets) : Run Flow := do
      Builtin.complainOf name message
      setStatus 2
      if Builtin.specials.contains name then endShell n 2 else return .next
    let code (k : Nat → Run Flow) (usual : Nat) : Run Flow :=
      match arguments with
      | [] => k usual
      | a :: _ =>
        match argumentNumber? a with
        | some v => k v
        | none => misuse ("Illegal number: ".toList ++ a)
    match Builtin.find? name with
    | some act =>
      match ← act arguments with
      | .status code =>
        setStatus code
        return .next
      | .misused message => misuse message
    | none =>
      match String.ofList name, arguments with
      | "exit", _ => code (endShell n ·) (← get).status
      | "return", _ =>
        code (fun v => do
          setStatus v
          return .back) (← get).status
      | "break", _ =>
        code (outOf .leave) 1
      | "continue", _ =>
        code (outOf .again) 1
      | "eval", words =>
        let s ← get
        setStatus 0
        source n manner { rest := Text.join [' '] words, line := s.line }
      | ".", [] => return .next
      | ".", path :: _ =>
        let found ← if path.contains '/' then pure (some path) else do
          let candidates := (← get).searchPath.map fun d =>
            if d.isEmpty then path else d ++ '/' :: path
          candidates.findM? fun c => return (← host (.inspect c)).isOk
        match found with
        | none => misuse (path ++ ": not found".toList)
        | some path =>
          match ← host (.openFile path .reading) with
          | .error f =>
            misuse ("cannot open ".toList ++ path ++ ": ".toList ++ openingFault .input f)
          | .ok file =>
            let text ← collect file 1000000
            let _ ← host (.close file)
            setStatus 0
            match ← source n manner.notLast { rest := text } with
            | .back => return .next
            | flow => return flow
      | "exec", [] =>
        setStatus 0
        return .next
      | "exec", program :: arguments => become n "exec: ".toList program arguments
      | "command", ['-', 'v'] :: names =>
        match names with
        | [] => return .next
        | w :: _ =>
          match ← pathOfName w with
          | some path =>
            let _ ← Builtin.put (path ++ ['\n'])
            setStatus 0
          | none => setStatus 127
          return .next
      | "command", ['-', 'V'] :: names => describeNames names
      | "command", [] =>
        setStatus 0
        return .next
      | "command", program :: arguments =>
        if Builtin.isKnown program then builtin n manner program arguments
        else external n manner program arguments
      | "type", names => describeNames names
      | _, _ => return .next

end

/-! ### The program -/

/-- How many steps a shell takes before it is taken to compute for ever. -/
def stepLimit : Nat :=
  200000

/-- The parameters with which a shell begins, from its environment. -/
def variablesOf (environment : Host.Environment) (directory : Path) : List (Octets × Variable) :=
  let handed := environment.filter fun e => isName e.1 && e.1 ≠ "IFS".toList
  [("IFS".toList, ⟨some [' ', '\t', '\n'], false, false⟩),
    ("OPTIND".toList, ⟨some ['1'], false, false⟩)]
    ++ (if (handed.lookup "PWD".toList).isSome then []
      else [("PWD".toList, ⟨some (Builtin.pathText directory), false, false⟩)])
    ++ handed.reverse.map fun e => (e.1, ⟨some e.2, true, false⟩)

/-- What the arguments of a shell ask for. -/
structure Invocation where
  options : List Char := []
  rest : List Octets := []
deriving DecidableEq, Repr

/-- The options in front of the arguments of a shell. -/
def Invocation.ofArguments : List Octets → Invocation
  | ['-', '-'] :: as => ⟨[], as⟩
  | ['-'] :: as => ⟨[], as⟩
  | ('-' :: c :: cs) :: as =>
    let i := ofArguments as
    { i with options := c :: cs ++ i.options }
  | as => ⟨[], as⟩

/-- What a shell does that was started with arguments. -/
def start (name : Octets) (arguments : List Octets) : Run Flow := do
  let invocation := Invocation.ofArguments arguments
  modify fun s => { s with options := invocation.options.filter fun c => c ≠ 'c' }
  if invocation.options.contains 'c' then
    match invocation.rest with
    | [] =>
      modify fun s => { s with line := 0 }
      abort stepLimit "-c requires an argument".toList
      return .next
    | text :: rest =>
      modify fun s => { s with name := rest.head?.getD name, arguments := rest.drop 1 }
      source stepLimit { isLast := true } { rest := text }
  else
    match invocation.rest with
    | [] =>
      let text ← collect 0 1000000
      source stepLimit {} { rest := text }
    | path :: rest =>
      match ← host (.openFile path .reading) with
      | .error f =>
        modify fun s => { s with line := 0 }
        abort stepLimit ("cannot open ".toList ++ path ++ ": ".toList ++ openingFault .input f)
        return .next
      | .ok file =>
        let text ← collect file 1000000
        let _ ← host (.close file)
        modify fun s => { s with name := path, arguments := rest }
        source stepLimit {} { rest := text }

/-- The shell as a program of the host. -/
def program : Host.Program := fun arguments environment =>
  let name := arguments.head?.getD "sh".toList
  let run : Run Flow := do
    let id ← host .self
    let directory ← host .currentDirectory
    modify fun s => { s with id, bindings := variablesOf environment directory }
    let _ ← start name (arguments.drop 1)
    endShell stepLimit (← get).status
  run { name, arguments := [], id := 0 } fun r => .ended r.2.status

end Shell

end NotebookEngine
