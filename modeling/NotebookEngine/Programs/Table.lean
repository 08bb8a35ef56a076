import NotebookEngine.Host.Machine
import NotebookEngine.Programs.Edit
import NotebookEngine.Programs.Streams
import NotebookEngine.Programs.Tree
import NotebookEngine.Shell.Interpreter

/-!
# The programs of the host

The programs that the host provides, by their names (`table`), and the files of a host on which they
lie in their usual places (`files`).
-/

namespace NotebookEngine

namespace Programs

open Host (Octets Act Request Environment Program Files)

/-! ### Small programs -/

/-- Writes its arguments as they are. -/
def echo : Utility := fun arguments => do
  let (isBare, arguments) :=
    match arguments with
    | ['-', 'n'] :: as => (true, as)
    | as => (false, as)
  put (Text.join [' '] arguments ++ if isBare then [] else ['\n'])
  return 0

/-- Writes a format filled with its arguments. -/
def printf : Utility := fun arguments => do
  match arguments with
  | [] =>
    complain "printf" "missing operand".toList
    return 1
  | format :: arguments =>
    let (text, faults) := Shell.Format.printf format arguments
    put text
    for f in faults do
      complain "printf" f
    return codeOf faults.isEmpty

/-- The milliseconds of a duration such as `0.5` or `2m`. -/
def duration? (s : Octets) : Option Nat :=
  let (digits, unit) :=
    match s.getLast? with
    | some 's' => (s.dropLast, 1000)
    | some 'm' => (s.dropLast, 60000)
    | some 'h' => (s.dropLast, 3600000)
    | some 'd' => (s.dropLast, 86400000)
    | _ => (s, 1000)
  let whole := digits.takeWhile Char.isDigit
  let part := (digits.drop whole.length).drop 1
  let isNumber := part.all Char.isDigit && !(whole.isEmpty && part.isEmpty)
    && ((digits.drop whole.length).head?.all (· = '.'))
  if s = "infinity".toList then some (Nat.pow 10 15)
  else if !isNumber then none
  else
    let numerator := (natural? (whole ++ part)).getD 0
    some ((numerator * unit + Nat.pow 10 part.length - 1) / Nat.pow 10 part.length)

/-- Sleeps for the sum of durations. -/
def sleep : Utility := fun arguments => do
  let hint : Act Unit := Act.write 2 "Try 'sleep --help' for more information.\n".toList
  if arguments.isEmpty then
    complain "sleep" "missing operand".toList
    hint
    return 1
  let wrong := arguments.filter fun a => (duration? a).isNone
  if !wrong.isEmpty then
    for a in wrong do
      complain "sleep" ("invalid time interval ".toList ++ quoted a)
    hint
    return 1
  Act.ask (.sleep (arguments.foldl (fun t a => t + (duration? a).getD 0) 0))
  return 0

/-- Writes a line again and again. -/
def repeatLine (line : Octets) : (times : Nat) → Act Nat
  | 0 => Act.spin
  | n + 1 => do
    put line
    repeatLine line n

/-- Writes its arguments again and again. -/
def yes : Utility := fun arguments =>
  repeatLine ((if arguments.isEmpty then ['y'] else Text.join [' '] arguments) ++ ['\n'])
    readingLimit

/-- The integer in an argument. -/
def integer? : Octets → Option Int
  | '-' :: ds => (natural? ds).map fun n => -(n : Int)
  | ds => (natural? ds).map Int.ofNat

/-- Writes the numbers from one to another. -/
def seq : Utility := fun arguments => do
  match arguments.mapM integer? with
  | some [last] => numbers 1 1 last
  | some [first, last] => numbers first 1 last
  | some [first, step, last] => numbers first step last
  | _ =>
    complain "seq" "invalid argument".toList
    return 1
where
  /-- The numbers from a first one by steps to a last one are written. -/
  numbers (first step last : Int) : Act Nat := do
    let count := if step = 0 then 0 else ((last - first) / step + 1).toNat
    put ((List.range count).flatMap fun (i : Nat) => Text.ofInt (first + step * i) ++ ['\n'])
    return 0

/-- Writes the environment. -/
def printenv (arguments : List Octets) (environment : Environment) : Act Nat := do
  match arguments with
  | [] =>
    for (name, value) in environment do
      putLine (name ++ '=' :: value)
    return 0
  | names =>
    let mut ok := true
    for name in names do
      match environment.lookup name with
      | some value => putLine value
      | none => ok := false
    return codeOf ok

/-- A program is run from the first directory that has it. -/
def runFrom (name : Octets) (arguments : List Octets) (environment : Environment) :
    (directories : List Octets) → (fault : Host.Fault) → Act Host.Fault
  | [], fault => return fault
  | d :: ds, fault => do
    let path := if d.isEmpty then name else d ++ '/' :: name
    match ← Act.ask (.execute path (name :: arguments) environment) with
    | .notFound | .notDirectory => runFrom name arguments environment ds fault
    | f => runFrom name arguments environment ds f

/-- Runs a program in a changed environment, or writes it. -/
def env : (arguments : List Octets) → Environment → Act Nat
  | [], environment => printenv [] environment
  | ['-', 'i'] :: as, _ => env as []
  | a :: as, environment => do
    let name := a.takeWhile (· ≠ '=')
    if name.length < a.length then
      env as (environment.filter (fun e => e.1 ≠ name) ++ [(name, a.drop (name.length + 1))])
    else
      let directories :=
        if a.contains '/' then [[]]
        else Text.pieces ':' ((environment.lookup "PATH".toList).getD "/bin:/usr/bin".toList)
      let fault ← runFrom a as environment directories .notFound
      complain "env" (quoted a ++ ": ".toList ++ fault.words)
      return if fault = .notFound then 127 else 126

/-! ### The table -/

/-- The programs that look at their arguments only. -/
def utilities : List (String × Utility) := [
  ("cat", cat), ("tee", tee), ("head", head), ("tail", tail), ("cut", cut), ("grep", grep),
  ("wc", wc), ("tr", tr), ("sort", sort), ("uniq", uniq), ("rev", rev), ("sed", sed),
  ("ls", ls), ("mkdir", mkdir), ("rmdir", rmdir), ("rm", rm), ("unlink", unlink),
  ("touch", touch), ("chmod", chmod), ("cp", cp), ("mv", mv), ("basename", basename),
  ("dirname", dirname), ("echo", echo), ("printf", printf), ("sleep", sleep), ("yes", yes),
  ("seq", seq), ("true", fun _ => return 0), ("false", fun _ => return 1)]

/-- The programs that look at their environment too. -/
def environmental : List (String × (List Octets → Environment → Act Nat)) := [
  ("env", env), ("printenv", printenv)]

/-- The names of the shell. -/
def shellNames : List String :=
  ["sh", "dash"]

/-- The names of all programs. -/
def names : List String :=
  utilities.map Prod.fst ++ environmental.map Prod.fst ++ shellNames

/-- The program of a name. -/
def table (name : Octets) : Program := fun arguments environment =>
  match utilities.find? fun u => u.1.toList = name with
  | some (_, act) => (act (arguments.drop 1)).behaviour
  | none =>
    match environmental.find? fun u => u.1.toList = name with
    | some (_, act) => (act (arguments.drop 1) environment).behaviour
    | none => Shell.program arguments environment

/-- The files of a host with its programs, its devices and a place for temporary files. -/
def files : Files :=
  let bare := ["/bin", "/usr/bin", "/dev", "/tmp"].foldl
    (fun (f : Files) (d : String) => f.withDirectory d.toList) {}
  let devices := (bare.withNode "/dev/null".toList (.device .null)).withNode
    "/dev/zero".toList (.device .zero)
  names.foldl (fun f name =>
    (f.withNode ("/bin/".toList ++ name.toList) (.program name.toList)).withNode
      ("/usr/bin/".toList ++ name.toList) (.program name.toList)) devices

/-- A machine on which nothing runs yet. -/
def machine : Host.Machine where
  files := files
  programs := table

end Programs

end NotebookEngine
