import NotebookEngine.Shell.Condition
import NotebookEngine.Shell.Format
import NotebookEngine.Shell.Pattern
import NotebookEngine.Shell.Signal

/-!
# Commands that a shell carries out itself

The commands of a shell that need no other commands to be carried out: those that write, test, read,
and change its parameters, its directory and its traps.
-/

namespace NotebookEngine

namespace Shell

open Host (Octets)

/-- How a command of the shell itself ended. -/
inductive Verdict where
  | status (code : Nat)
  /-- The command could not be understood. -/
  | misused (message : Octets)
deriving DecidableEq, Repr

namespace Builtin

/-- The status of a truth. -/
def verdict (b : Bool) : Verdict :=
  .status (if b then 0 else 1)

/-- Text is written; a closed output is complained of. -/
def put (s : Octets) : Run Bool := do
  if s.isEmpty then return true
  match ← host (.write 1 s) with
  | .ok _ => return true
  | .error _ => return false

/-- A message about what a command of the shell itself could not do. -/
def complainOf (command message : Octets) : Run Unit :=
  complain (command ++ ": ".toList ++ message)

/-! ### Writing and testing -/

/-- Writes its arguments. -/
def echo (arguments : List Octets) : Run Verdict := do
  if ← put (Format.echo arguments) then return .status 0
  complainOf "echo".toList "echo: I/O error".toList
  return .status 1

/-- Writes a format filled with its arguments. -/
def printf (arguments : List Octets) : Run Verdict := do
  let arguments := if arguments.head? = some ['-', '-'] then arguments.drop 1 else arguments
  match arguments with
  | [] => return .misused "usage: printf format [arg ...]".toList
  | format :: arguments =>
    let (text, faults) := Format.printf format arguments
    let _ ← put text
    match faults.find? fun f => Text.endsWith f "invalid directive".toList with
    | some f => return .misused f
    | none =>
      for f in faults do
        complainOf "printf".toList f
      return verdict faults.isEmpty

/-- Tests a condition; under the name of a bracket its last argument closes it. -/
def test (name : Octets) (arguments : List Octets) : Run Verdict := do
  if name = ['['] && arguments.getLast? ≠ some [']'] then return .misused "missing ]".toList
  let arguments := if name = ['['] then arguments.dropLast else arguments
  match ← Condition.evaluate arguments with
  | .ok b => return verdict b
  | .error m => return .misused m

/-! ### Reading -/

/-- The octets of a line with its end, or what there is before the end of the input. -/
def wholeLine : (pieces : Nat) → Run Octets
  | 0 => spin
  | n + 1 => do
    match ← host (.read 0 true) with
    | .error _ | .ok [] => return []
    | .ok part =>
      if part.getLast? = some '\n' then return part
      return part ++ (← wholeLine n)

/-- The most pieces in which a line may come. -/
def linePieces : Nat :=
  1000

/-- A line is read, with the characters that a backslash has quoted marked; whether it was ended. -/
def readLine (isRaw : Bool) : (steps : Nat) → Run (List Mark × Bool)
  | 0 => spin
  | n + 1 => do
    let line ← wholeLine linePieces
    let isEnded := line.getLast? = some '\n'
    let body := (if isEnded then line.dropLast else line).filter (· ≠ '\x00')
    if isRaw then return (body.map fun c => ⟨c, false⟩, isEnded)
    let (ms, goesOn) := unquote body
    if goesOn && isEnded then
      let (more, ended) ← readLine isRaw n
      return (ms ++ more, ended)
    return (ms, isEnded)
where
  /-- The characters of a line, and whether its last backslash quotes its end. -/
  unquote : Octets → List Mark × Bool
  | [] => ([], false)
  | ['\\'] => ([], true)
  | '\\' :: c :: s =>
    let (ms, goesOn) := unquote s
    (⟨c, true⟩ :: ms, goesOn)
  | c :: s =>
    let (ms, goesOn) := unquote s
    (⟨c, false⟩ :: ms, goesOn)

/-- The mark separates fields. -/
def isSeparator (separators : Octets) (m : Mark) : Bool :=
  !m.isQuoted && separators.contains m.char

/-- The mark is space that separates fields. -/
def isSeparatingSpace (separators : Octets) (m : Mark) : Bool :=
  isSeparator separators m && Calculation.isSpace m.char

/-- A line is shared out among so many parameters, the last of which gets all that is left. -/
def share (separators : Octets) : (names : Nat) → List Mark → List Octets
  | 0, _ => []
  | n + 1, ms =>
    let isSpace := isSeparatingSpace separators
    let ms := ms.dropWhile isSpace
    let field := ms.takeWhile fun m => !isSeparator separators m
    let after := (ms.drop field.length).dropWhile isSpace
    let after := if after.head?.any (isSeparator separators) then after.drop 1 else after
    if n = 0 then
      if after.isEmpty then [field.map Mark.char]
      else [(ms.reverse.dropWhile isSpace).reverse.map Mark.char]
    else field.map Mark.char :: share separators n after

/-- Reads a line into parameters. -/
def read (arguments : List Octets) : Run Verdict := do
  let isRaw := arguments.head? = some ['-', 'r']
  let names := if isRaw then arguments.drop 1 else arguments
  match names with
  | [] => return .misused "arg count".toList
  | _ =>
    match names.find? fun a => !isName a with
    | some a => return .misused (a ++ ": bad variable name".toList)
    | none =>
      let (line, isEnded) ← readLine isRaw 100000
      let fields := share (← get).separators names.length line
      for (name, value) in names.zip fields do
        modify fun s => s.setVariable name value
      return verdict isEnded

/-! ### Directories -/

/-- The text of a path. -/
def pathText (p : Host.Path) : Octets :=
  '/' :: Text.join ['/'] p

/-- Changes the directory. -/
def cd (arguments : List Octets) : Run Verdict := do
  let s ← get
  let arguments := arguments.filter fun a => a ≠ ['-', 'P'] && a ≠ ['-', 'L']
  let target :=
    match arguments with
    | [] => (s.value? "HOME".toList).getD []
    | ['-'] :: _ => (s.value? "OLDPWD".toList).getD []
    | a :: _ => a
  if target.isEmpty then return .status 0
  let old ← host .currentDirectory
  match ← host (.changeDirectory target) with
  | .error _ => return .misused ("can't cd to ".toList ++ target)
  | .ok _ =>
    let new ← host .currentDirectory
    modify fun s => (s.setVariable "OLDPWD".toList (pathText old)).setVariable "PWD".toList
      (pathText new)
    if arguments.head? = some ['-'] then
      let _ ← put (pathText new ++ ['\n'])
    return .status 0

/-- Writes the directory. -/
def pwd : Run Verdict := do
  let _ ← put (pathText (← host .currentDirectory) ++ ['\n'])
  return .status 0

/-! ### Signals and children -/

/-- Sends a signal to processes. -/
def kill (arguments : List Octets) : Run Verdict := do
  let usage : Verdict :=
    .misused "Usage: kill [-s sigspec | -signum | -sigspec] [pid | job]... or\nkill -l [exitstatus]".toList
  let chosen : Except Verdict (Nat × List Octets) :=
    match arguments with
    | ['-', 's'] :: w :: rest =>
      match Signal.ofWord? w with
      | some n => .ok (n, rest)
      | none => .error (.misused ("invalid signal number or name: ".toList ++ w))
    | ['-', '-'] :: rest => .ok (15, rest)
    | ('-' :: w) :: rest =>
      match Signal.ofWord? w with
      | some n => .ok (n, rest)
      | none => .error (.misused ("Illegal option -".toList ++ w.take 1))
    | rest => .ok (15, rest)
  match chosen with
  | .error v => return v
  | .ok (_, []) => return usage
  | .ok (signal, ids) =>
    let mut failed := false
    for w in ids do
      match if w.all Char.isDigit then (String.ofList w).toNat? else none with
      | none => return .misused ("Illegal number: ".toList ++ w)
      | some id =>
        if !(← host (.signal id signal)) then
          complainOf "kill".toList "No such process\n".toList
          failed := true
    return verdict (!failed)

/-- The code by which a shell knows how a process ended. -/
def codeOf : ExitStatus → Nat
  | .code n => n.toNat
  | .signal n => 128 + n

/-- The ends of all children are waited for. -/
def waitForAll : (steps : Nat) → Run Unit
  | 0 => spin
  | n + 1 => do
    if (← host (.wait none)).isSome then waitForAll n

/-- Waits for children. -/
def wait (arguments : List Octets) : Run Verdict := do
  if arguments.isEmpty then
    waitForAll 100000
    return .status 0
  let mut code := 0
  for w in arguments do
    match if w.all Char.isDigit then (String.ofList w).toNat? else none with
    | none => return .misused ("Illegal number: ".toList ++ w)
    | some id =>
      match ← host (.wait (some id)) with
      | some (_, status) => code := codeOf status
      | none => code := 127
  return .status code

/-- A text in single quotes. -/
def singleQuoted (s : Octets) : Octets :=
  '\'' :: s.flatMap (fun c => if c = '\'' then "'\"'\"'".toList else [c]) ++ ['\'']

/-- Sets what is done when signals come, or tells it. -/
def trap (arguments : List Octets) : Run Verdict := do
  let arguments := if arguments.head? = some ['-', '-'] then arguments.drop 1 else arguments
  match arguments with
  | [] =>
    let traps := (← get).traps.mergeSort fun a b => a.1 ≤ b.1
    for (n, action) in traps do
      let _ ← put ("trap -- ".toList ++ singleQuoted action ++ ' ' :: Signal.name n ++ ['\n'])
    return .status 0
  | first :: rest =>
    let isReset := first = ['-'] || rest.isEmpty || (Signal.ofWord? first).isSome && rest.isEmpty
    let words := if rest.isEmpty then arguments else rest
    for w in words do
      match Signal.ofWord? w with
      | none => return .misused (w ++ ": bad trap".toList)
      | some n =>
        let others := (← get).traps.filter fun t => t.1 ≠ n
        modify fun s => { s with traps := if isReset then others else (n, first) :: others }
        if n ≠ 0 then
          host <| .dispose n <|
            if isReset then .usual else if first.isEmpty then .ignored else .caught
    return .status 0

/-! ### Parameters -/

/-- The name and the value in an argument of the form `name=value`. -/
def splitAssignment (a : Octets) : Octets × Option Octets :=
  let name := a.takeWhile (· ≠ '=')
  (name, if name.length < a.length then some (a.drop (name.length + 1)) else none)

/-- Variables are declared, each in a way of its own. -/
def declare (arguments : List Octets) (change : Variable → Variable) : Run Verdict := do
  for a in arguments.filter (fun a => a ≠ ['-', 'p'] && a ≠ ['-', '-']) do
    let (name, value) := splitAssignment a
    if !isName name then return .misused (a ++ ": bad variable name".toList)
    let s ← get
    if value.isSome && s.isReadOnly name then return .misused (name ++ ": is read only".toList)
    let old := (s.bindings.lookup name).getD ⟨none, false, false⟩
    let new := change { old with value := value.or old.value }
    set (s.putVariable name (some new))
  return .status 0

/-- Forgets variables or functions. -/
def unset (arguments : List Octets) : Run Verdict := do
  let ofFunctions := arguments.head? = some ['-', 'f']
  for a in arguments.filter (fun a => a ≠ ['-', 'f'] && a ≠ ['-', 'v']) do
    let s ← get
    if ofFunctions then set { s with functions := s.functions.filter fun f => f.1 ≠ a }
    else if !isName a then return .misused (a ++ ": bad variable name".toList)
    else if s.isReadOnly a then return .misused (a ++ ": is read only".toList)
    else set (s.putVariable a none)
  return .status 0

/-- The letters of options by their long names. -/
def optionNames : List (String × Char) := [
  ("errexit", 'e'), ("noglob", 'f'), ("noexec", 'n'), ("nounset", 'u'), ("xtrace", 'x'),
  ("verbose", 'v'), ("allexport", 'a'), ("noclobber", 'C'), ("monitor", 'm'), ("notify", 'b'),
  ("ignoreeof", 'I'), ("interactive", 'i'), ("stdin", 's')]

/-- An option is switched. -/
def switch (on : Bool) (letter : Char) : Run Unit :=
  modify fun s =>
    let others := s.options.filter (· ≠ letter)
    { s with options := if on then others ++ [letter] else others }

/-- Sets options and arguments. -/
def setOptions : List Octets → Run Verdict
  | [] => return .status 0
  | ['-', '-'] :: as => do
    modify fun s => { s with arguments := as }
    return .status 0
  | ['-', 'o'] :: name :: as | ['+', 'o'] :: name :: as => do
    match optionNames.find? fun o => o.1.toList = name with
    | some (_, letter) =>
      switch true letter
      setOptions as
    | none => return .misused ("Illegal option -o ".toList ++ name)
  | (sign :: c :: cs) :: as => do
    if sign = '-' || sign = '+' then
      for letter in c :: cs do
        if !optionNames.any fun o => o.2 = letter then
          return .misused ("Illegal option ".toList ++ [sign, letter])
        switch (sign = '-') letter
      setOptions as
    else
      modify fun s => { s with arguments := (sign :: c :: cs) :: as }
      return .status 0
  | a :: as => do
    modify fun s => { s with arguments := a :: as }
    return .status 0

/-- Sets options and arguments, or tells the variables. -/
def setting (arguments : List Octets) : Run Verdict := do
  if arguments.isEmpty then
    let s ← get
    let named := s.bindings.filterMap fun (name, v) => v.value.map (name, ·)
    for (name, value) in named.mergeSort (fun a b => Octets.precedes a.1 b.1) do
      let _ ← put (name ++ '=' :: singleQuoted value ++ ['\n'])
    return .status 0
  setOptions arguments

/-- Drops arguments from the front. -/
def shift (arguments : List Octets) : Run Verdict := do
  let s ← get
  match arguments.head?.elim (some 1) fun a => (String.ofList a).toNat? with
  | none => return .misused ("Illegal number: ".toList ++ arguments.head?.getD [])
  | some n =>
    if s.arguments.length < n then return .misused "can't shift that many".toList
    set { s with arguments := s.arguments.drop n }
    return .status 0

/-- Gives variables to the function under way. -/
def localize (arguments : List Octets) : Run Verdict := do
  for a in arguments do
    let (name, value) := splitAssignment a
    let s ← get
    match s.hidden with
    | [] => return .misused "not in a function".toList
    | scope :: outer =>
      if !isName name then return .misused (a ++ ": bad variable name".toList)
      let old := s.bindings.lookup name
      let scope := if (scope.lookup name).isSome then scope else (name, old) :: scope
      let new := { old.getD ⟨none, false, false⟩ with
        value := value.or (old.bind Variable.value) }
      set ({ s with hidden := scope :: outer }.putVariable name (some new))
  if (← get).hidden.isEmpty then return .misused "not in a function".toList
  return .status 0

/-! ### All of them -/

/-- The commands that a shell carries out itself, except those that carry out others. -/
def all : List (String × (List Octets → Run Verdict)) := [
  (":", fun _ => return .status 0), ("true", fun _ => return .status 0),
  ("false", fun _ => return .status 1), ("echo", echo), ("printf", printf),
  ("test", test "test".toList), ("[", test ['[']), ("read", read), ("cd", cd), ("chdir", cd),
  ("pwd", fun _ => pwd), ("kill", kill), ("wait", wait), ("trap", trap),
  ("export", fun as => declare as fun v => { v with isExported := true }),
  ("readonly", fun as => declare as fun v => { v with isReadOnly := true }),
  ("unset", unset), ("set", setting), ("shift", shift), ("local", localize),
  ("umask", fun _ => do
    let _ ← put "0022\n".toList
    return .status 0),
  ("times", fun _ => do
    let _ ← put "0m0.000000s 0m0.000000s\n0m0.000000s 0m0.000000s\n".toList
    return .status 0),
  ("hash", fun _ => return .status 0), ("ulimit", fun _ => return .status 0),
  ("jobs", fun _ => return .status 0), ("alias", fun _ => return .status 0),
  ("unalias", fun _ => return .status 0)]

/-- The command of a name, if the shell carries it out itself. -/
def find? (name : Octets) : Option (List Octets → Run Verdict) :=
  (all.find? fun b => b.1.toList = name).map Prod.snd

/-- The commands that carry out others, or leave what is carried out. -/
def controls : List Octets :=
  ["exit", "return", "break", "continue", "eval", ".", "exec", "command", "type"].map
    fun (s : String) => s.toList

/-- The commands whose misuse ends the shell, and before which assignments last. -/
def specials : List Octets :=
  [":", "exit", "return", "break", "continue", "eval", ".", "exec", "export", "readonly", "set",
    "shift", "times", "trap", "unset", "local"].map fun (s : String) => s.toList

/-- The shell itself knows a command of the name. -/
def isKnown (name : Octets) : Bool :=
  controls.contains name || (find? name).isSome

end Builtin

end Shell

end NotebookEngine
