import NotebookEngine.Host.Behaviour
import NotebookEngine.Text.Basic

/-!
# What programs have in common

Reading inputs named by arguments, writing what was asked for, and complaining of the rest.
-/

namespace NotebookEngine

namespace Programs

open Host (Octets Act Request)

/-- How many pieces a program reads before it is taken to read for ever. -/
def readingLimit : Nat :=
  1000000

/-- A program that acts on its arguments and ends with the code it comes to. -/
abbrev Utility := List Octets → Act Nat

/-- A message about what a program could not do. -/
def complain (program : String) (message : Octets) : Act Unit :=
  Act.write 2 (program.toList ++ ": ".toList ++ message ++ ['\n'])

/-- A text in the quotes of messages. -/
def quoted (s : Octets) : Octets :=
  '\'' :: s ++ ['\'']

/-- Text is written on the output. -/
def put (s : Octets) : Act Unit :=
  Act.write 1 s

/-- A line is written on the output. -/
def putLine (s : Octets) : Act Unit :=
  Act.write 1 (s ++ ['\n'])

/-- The code of a program that has succeeded, or not. -/
def codeOf (ok : Bool) : Nat :=
  if ok then 0 else 1

/-- The content of a file, read to its end. -/
def readFile (path : Octets) : Act (Except Host.Fault Octets) := do
  match ← Act.ask (.openFile path .reading) with
  | .error f => return .error f
  | .ok file =>
    match ← Act.ask (.read file false) with
    | .error f =>
      let _ ← Act.ask (.close file)
      return .error f
    | .ok [] =>
      let _ ← Act.ask (.close file)
      return .ok []
    | .ok first =>
      let rest ← Act.readAll file readingLimit
      let _ ← Act.ask (.close file)
      return .ok (first ++ rest)

/-- The content of an input: a file, or what is left to read under the name `-`. -/
def readInput (path : Octets) : Act (Except Host.Fault Octets) := do
  if path = ['-'] then return .ok (← Act.readAll 0 readingLimit)
  readFile path

/-- The inputs that arguments name; without any, there is one. -/
def inputs (paths : List Octets) : List Octets :=
  if paths.isEmpty then [['-']] else paths

/-- The lines of a text, each with whether it is ended. -/
def linesOf (s : Octets) : List (Octets × Bool) :=
  match (Text.pieces '\n' s).reverse with
  | [] => []
  | [] :: ls => ls.reverse.map (·, true)
  | l :: ls => ls.reverse.map (·, true) ++ [(l, false)]

/-- The options and operands of arguments: `flags` are letters by themselves, `valued` letters take
the rest of the argument or the next one. An unknown letter is returned. -/
structure Options where
  flags : List Char := []
  values : List (Char × Octets) := []
  operands : List Octets := []
  unknown : Option Char := none
deriving DecidableEq, Repr

namespace Options

/-- The letters of one argument: those by themselves, then perhaps one with its value or one that
waits for it. -/
def letters (flags valued : List Char) : Octets → Options × Option Char
  | [] => ({}, none)
  | c :: cs =>
    if valued.contains c then
      if cs.isEmpty then ({}, some c) else ({ values := [(c, cs)] }, none)
    else if flags.contains c then
      let (o, waiting) := letters flags valued cs
      ({ o with flags := c :: o.flags }, waiting)
    else ({ unknown := some c }, none)

/-- The options of one argument before those of the others. -/
def join (a b : Options) : Options where
  flags := a.flags ++ b.flags
  values := a.values ++ b.values
  operands := a.operands ++ b.operands
  unknown := a.unknown.or b.unknown

/-- The options and operands of arguments, where `waiting` is a letter without its value. -/
def ofArgumentsFrom (flags valued : List Char) : (waiting : Option Char) → List Octets → Options
  | _, [] => {}
  | some c, a :: as =>
    join { values := [(c, a)] } (ofArgumentsFrom flags valued none as)
  | none, a :: as =>
    match a with
    | ['-', '-'] => { operands := as }
    | '-' :: c :: cs =>
      let (o, waiting) := letters flags valued (c :: cs)
      join o (ofArgumentsFrom flags valued waiting as)
    | a => join { operands := [a] } (ofArgumentsFrom flags valued none as)

/-- The options and operands of arguments. -/
def ofArguments (flags valued : String) (arguments : List Octets) : Options :=
  ofArgumentsFrom flags.toList valued.toList none arguments

/-- A letter was given. -/
def has (o : Options) (c : Char) : Bool :=
  o.flags.contains c

/-- The last value given for a letter. -/
def value? (o : Options) (c : Char) : Option Octets :=
  ((o.values.filter fun v => v.1 = c).getLast?).map Prod.snd

end Options

/-- A program that understands its letters does something; else it says which it does not. -/
def understanding (program : String) (o : Options) (act : Act Nat) : Act Nat := do
  match o.unknown with
  | none => act
  | some c =>
    complain program ("invalid option -- ".toList ++ quoted [c])
    Act.write 2 ("Try '".toList ++ program.toList ++ " --help' for more information.\n".toList)
    return if program = "grep" || program = "ls" then 2 else 1

/-- The number in an argument. -/
def natural? (s : Octets) : Option Nat :=
  if !s.isEmpty && s.all Char.isDigit then (String.ofList s).toNat? else none

end Programs

end NotebookEngine
