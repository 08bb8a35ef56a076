import NotebookEngine.Text.Basic

/-!
# Switches and arguments

How the words of a command line are read. A `Level` has switches, places for arguments, and names
of commands; the words after a command are read at a level of their own. A switch is written with
its name after two dashes or its letter after one, its value after an equals sign, in the next word,
or right after the letter. After a word of two dashes all words are arguments.

`Level.read` gives what was given at a level, with the command and the words after it.
-/

namespace NotebookEngine

namespace CommandLine

/-- What a switch is for. -/
inductive Purpose where
  /-- It is set or not. -/
  | setting
  /-- It has a value. -/
  | value (placeholder : String) (isEmptyAllowed : Bool)
  /-- The help is shown, whatever comes after. -/
  | help
  /-- The version is shown, whatever comes after. -/
  | version
deriving DecidableEq, Repr

/-- A switch. -/
structure Switch where
  name : String
  letter : Option Char
  purpose : Purpose
  about : String
deriving DecidableEq, Repr

/-- Where words are read: the switches, the arguments with what they are, and the commands. -/
structure Level where
  switches : List Switch
  arguments : List (String × String)
  commands : List String
deriving DecidableEq, Repr

/-- Why the words of a command line ask for nothing to be done. -/
inductive Stop where
  /-- The help of a command, or of them all. -/
  | help (command : Option String)
  | version
  /-- The words have no meaning. -/
  | misuse
deriving DecidableEq, Repr

/-- What was given at a level: switches that are set, values, arguments. -/
structure Given where
  settings : List String := []
  values : List (String × Text) := []
  arguments : List Text := []
deriving DecidableEq, Repr

/-- The state of reading at a level: what was given, and the switch that was written last with its
value, if it has come already. -/
structure Reading where
  given : Given := {}
  last : Option (Switch × Option Text) := none
  /-- Only arguments are left. -/
  isPlain : Bool := false
deriving DecidableEq, Repr

namespace Reading

/-- A value waits to be read. -/
def isWaiting (r : Reading) : Bool :=
  match r.last with
  | some (_, none) => true
  | _ => false

/-- The last switch with its value belongs to what was given. A switch can be given once. -/
def settle (r : Reading) : Except Stop Reading :=
  match r.last with
  | none => .ok r
  | some (_, none) => .error .misuse
  | some (s, some v) =>
    let isRefused := match s.purpose with
      | .value _ isEmptyAllowed => v.isEmpty && !isEmptyAllowed
      | _ => false
    if isRefused || (r.given.values.lookup s.name).isSome then .error .misuse
    else .ok { r with given := { r.given with values := (s.name, v) :: r.given.values }, last := none }

/-- A switch has been written that takes no value. -/
def set (r : Reading) (s : Switch) : Except Stop Reading := do
  let r ← r.settle
  match s.purpose with
  | .help => .error (.help none)
  | .version => .error .version
  | _ =>
    if r.given.settings.contains s.name then .error .misuse
    else .ok { r with given := { r.given with settings := s.name :: r.given.settings } }

/-- A switch has been written that takes a value, which may have been written with it. -/
def await (r : Reading) (s : Switch) (value : Option Text) : Except Stop Reading := do
  let r ← r.settle
  .ok { r with last := some (s, value) }

end Reading

/-- The switch takes a value. -/
def Switch.takesValue (s : Switch) : Bool :=
  match s.purpose with
  | .value _ _ => true
  | _ => false

namespace Level

/-- A word that begins with two dashes, which are not part of `word`. -/
def readName (l : Level) (r : Reading) (word : Text) : Except Stop Reading :=
  let (name, value) : Text × Option Text :=
    match Text.cutFirst? ['='] word with
    | some (name, value) => (name, some value)
    | none => (word, none)
  match l.switches.find? fun s => s.name.toList = name with
  | none => .error .misuse
  | some s =>
    if s.takesValue then r.await s value
    else if value.isSome then .error .misuse
    else r.set s

/-- A word that begins with one dash, which is not part of the letters. -/
def readLetters (l : Level) : Reading → Text → Except Stop Reading
  | r, [] => .ok r
  | r, c :: cs => do
    match l.switches.find? fun s => s.letter = some c with
    | none => .error .misuse
    | some s =>
      if s.takesValue then
        r.await s (if cs.isEmpty then none else some ((Text.stripPrefix? ['='] cs).getD cs))
      else
        let r ← r.set s
        l.readLetters r cs

/-- A word that is an argument. -/
def readArgument (l : Level) (r : Reading) (word : Text) : Except Stop Reading := do
  let r ← r.settle
  if r.given.arguments.length < l.arguments.length then
    .ok { r with given := { r.given with arguments := r.given.arguments ++ [word] } }
  else .error .misuse

/-- A word that is no command. -/
def readWord (l : Level) (r : Reading) (word : Text) : Except Stop Reading :=
  if r.isPlain then l.readArgument r word
  else match word with
    | ['-', '-'] => .ok { r with isPlain := true }
    | '-' :: '-' :: name => l.readName r name
    | '-' :: c :: cs => l.readLetters r (c :: cs)
    | _ =>
      match r.last with
      | some (s, none) => .ok { r with last := some (s, some word) }
      | _ => l.readArgument r word

/-- The words up to a command, with the command and the words after it. The last switch may still
have to be settled. -/
def read (l : Level) (r : Reading) : List Text → Except Stop (Reading × Option (String × List Text))
  | [] => .ok (r, none)
  | word :: words =>
    let command := l.commands.find? fun c => !r.isPlain && !r.isWaiting && c.toList = word
    match command with
    | some c => .ok (r, some (c, words))
    | none => do
      let r ← l.readWord r word
      l.read r words

end Level

end CommandLine

end NotebookEngine
