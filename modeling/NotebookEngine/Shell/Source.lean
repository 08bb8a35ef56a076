import NotebookEngine.Shell.Command
import NotebookEngine.Text.Basic

/-!
# The source of a script

What is left of a script that is being read, and the rules that take something small from its front:
blanks, words with a meaning of their own, the body of a document.
-/

namespace NotebookEngine

namespace Shell

open Host (Octets)

/-- What is left of a script, and the line it is at; `owed` counts the lines of documents taken out
beyond the end of this line. -/
structure Source where
  rest : Octets
  line : Nat := 1
  owed : Nat := 0
deriving DecidableEq, Repr

/-- Why a script cannot be read. -/
structure SyntaxFault where
  line : Nat
  message : Octets
deriving DecidableEq, Repr

/-- A rule that reads from a source. -/
abbrev Parser := StateT Source (Except SyntaxFault)

/-! ### Characters -/

/-- Space within a line. -/
def isBlank (c : Char) : Bool :=
  c = ' ' || c = '\t'

/-- The character ends a word. -/
def endsWord (c : Char) : Bool :=
  isBlank c || "\n;&|<>()".toList.contains c

/-- The character may begin a name. -/
def beginsName (c : Char) : Bool :=
  c.isAlpha || c = '_'

/-- The character may stand in a name. -/
def continuesName (c : Char) : Bool :=
  c.isAlphanum || c = '_'

/-- The text is a name. -/
def isName (s : Octets) : Bool :=
  s.head?.any beginsName && s.all continuesName

/-- The character stands for itself wherever it is. -/
def isOrdinary (c : Char) : Bool :=
  !endsWord c && !"\\'\"$\x60\x7d~".toList.contains c

/-- The character can stand in a word that has a meaning of its own. -/
def isUnmarked (c : Char) : Bool :=
  !endsWord c && !"\\'\"$\x60".toList.contains c

/-- The character names a parameter by itself. -/
def isSign (c : Char) : Bool :=
  "@*#?-$!".toList.contains c

/-- The words with a meaning of their own at the beginning of a command. -/
def reservedWords : List Octets :=
  ["!", "\x7b", "\x7d", "case", "do", "done", "elif", "else", "esac", "fi", "for", "if", "in",
    "then", "until", "while"].map fun (s : String) => s.toList

/-! ### Moving on -/

namespace Source

/-- The source after so many characters. -/
def advance (s : Source) (n : Nat) : Source :=
  let passed := (s.rest.take n).count '\n'
  { rest := s.rest.drop n
    line := s.line + passed + if passed = 0 then 0 else s.owed
    owed := if passed = 0 then s.owed else 0 }

/-- The source after space, comments and broken lines. -/
def afterBlanks : Octets → Octets
  | '\\' :: '\n' :: r => afterBlanks r
  | '#' :: r => r.dropWhile (· ≠ '\n')
  | c :: r => if isBlank c then afterBlanks r else c :: r
  | [] => []

/-- The source after space, comments, and ends of lines. -/
def afterSpace : Octets → Octets
  | '\\' :: '\n' :: r => afterSpace r
  | '\n' :: r => afterSpace r
  | '#' :: r => afterComment r
  | c :: r => if isBlank c then afterSpace r else c :: r
  | [] => []
where
  /-- The source after the end of a comment, and what `afterSpace` leaves out. -/
  afterComment : Octets → Octets
  | '\n' :: r => afterSpace r
  | _ :: r => afterComment r
  | [] => []

end Source

namespace Parser

/-- What is left of the source. -/
def rest : Parser Octets := do
  return (← get).rest

/-- So many characters are taken. -/
def take (n : Nat) : Parser Unit :=
  modify fun s => s.advance n

/-- Characters are taken until what is left is as long as given. -/
def takeTo (left : Octets) : Parser Unit :=
  modify fun s => s.advance (s.rest.length - left.length)

/-- Space within a line is taken. -/
def skipBlanks : Parser Unit := do
  takeTo (Source.afterBlanks (← rest))

/-- Space and ends of lines are taken. -/
def skipSpace : Parser Unit := do
  takeTo (Source.afterSpace (← rest))

/-- The script cannot be read. -/
def fail {α : Type} (message : Octets) : Parser α := do
  throw ⟨(← get).line, "Syntax error: ".toList ++ message⟩

/-- The source goes on with a text, which is taken. -/
def accept (text : String) : Parser Bool := do
  if Text.startsWith (← rest) text.toList then
    take text.length
    return true
  return false

/-- The source goes on with a text, which is left. -/
def sees (text : String) : Parser Bool := do
  return Text.startsWith (← rest) text.toList

/-! ### Words with a meaning of their own -/

/-- The unmarked word at the front of the source, if a whole word is unmarked. -/
def unmarked? (s : Octets) : Option Octets :=
  let w := s.takeWhile isUnmarked
  if w.isEmpty then none
  else match (s.drop w.length).head? with
    | none => some w
    | some c => if endsWord c then some w else none

/-- The word with a meaning of its own at the front of the source. -/
def reserved? : Parser (Option Octets) := do
  return (unmarked? (← rest)).filter reservedWords.contains

/-- The description of what is at the front of the source. -/
def tokenName (s : Octets) : Octets :=
  let operators : List String := [";;", "&&", "||", ";", "&", "|", "(", ")"]
  match operators.find? fun (o : String) => Text.startsWith s o.toList with
  | some o => '"' :: o.toList ++ ['"']
  | none =>
    match s.head? with
    | none => "end of file".toList
    | some '\n' => "newline".toList
    | some '<' | some '>' => "redirection".toList
    | _ =>
      match (unmarked? s).filter reservedWords.contains with
      | some w => '"' :: w ++ ['"']
      | none => "word".toList

/-- What is at the front of the source should not be there. -/
def unexpected {α : Type} : Parser α := do
  skipBlanks
  fail (tokenName (← rest) ++ " unexpected".toList)

/-- Something else should be at the front of the source. -/
def expecting {α : Type} (wanted : Octets) : Parser α := do
  skipBlanks
  fail (tokenName (← rest) ++ " unexpected (expecting ".toList ++ wanted ++ [')'])

/-- A word with a meaning of its own must come, and is taken. -/
def require (word : String) : Parser Unit := do
  skipBlanks
  if (← reserved?) = some word.toList then take word.length
  else expecting ('"' :: word.toList ++ ['"'])

/-- A word with a meaning of its own is taken if it comes. -/
def acceptWord (word : String) : Parser Bool := do
  skipBlanks
  if (← reserved?) = some word.toList then
    take word.length
    return true
  return false

/-! ### Documents -/

/-- The lines of a document up to its delimiter, and what follows it. -/
def splitDocument (stripped : Bool) (delimiter : Octets) : List Octets → List Octets × List Octets
  | [] => ([], [])
  | l :: ls =>
    let l := if stripped then l.dropWhile (· = '\t') else l
    if l = delimiter then ([], ls)
    else
      let (body, after) := splitDocument stripped delimiter ls
      (l :: body, after)

/-- The body of a document is taken out of the source, where it begins after the end of this
line. -/
def takeDocument (stripped : Bool) (delimiter : Octets) : Parser Octets := do
  let s ← get
  let here := s.rest.takeWhile (· ≠ '\n')
  match s.rest.drop here.length with
  | [] => return []
  | _ :: below =>
    let ls := Text.pieces '\n' below
    let (body, after) := splitDocument stripped delimiter ls
    set { s with
      rest := here ++ '\n' :: Text.join ['\n'] after
      owed := s.owed + (ls.length - after.length) }
    let isClosed := body.length < ls.length - after.length
    let body := if isClosed || body.getLast? ≠ some [] then body else body.dropLast
    return body.flatMap fun l => l ++ ['\n']

end Parser

end Shell

end NotebookEngine
