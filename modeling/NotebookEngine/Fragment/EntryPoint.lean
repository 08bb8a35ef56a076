import NotebookEngine.Fragment.Grammar.Items
import NotebookEngine.Fragment.Lexer

/-!
# Entry points of compiled fragments

A fragment has an entry point when it defines a function `main` at its top level. A fragment that is
a whole file is asked through its grammar (`topFunctions?`). One with loose statements is no file; in
it every line is looked at by itself (`declaresMain`).
-/

namespace NotebookEngine

namespace Fragment

/-! ### Whole files -/

/-- What follows the blanks and plain comments, so many at most. -/
def afterBlanks : Nat → Text → Text
  | 0, s => s
  | _ + 1, [] => []
  | n + 1, c :: rest =>
    if Lexer.isBlank c then afterBlanks n rest
    else match Lexer.slash (c :: rest) with
      | .comment rest => afterBlanks n rest
      | _ => c :: rest

/-- What follows a byte order mark. -/
def afterMark : Text → Text
  | c :: rest => if c.toNat = 0xFEFF then rest else c :: rest
  | [] => []

/-- What follows a first line that names an interpreter. An inner attribute is no such line. -/
def afterInterpreter (s : Text) : Text :=
  match s with
  | '#' :: '!' :: rest =>
    if (afterBlanks rest.length rest).head? = some '[' then s else s.dropWhile (· ≠ '\n')
  | _ => s

/-- The names of the functions at the top level of a fragment that is a whole file. -/
def topFunctions? (code : Text) : Option (List Text) :=
  (tokens? (afterMark (afterInterpreter (afterMark code)))).bind Grammar.file?

/-! ### Loose statements -/

/-- What follows a visibility such as `pub`, `pub(crate)` or `pub(in path)`. -/
def stripVisibility (line : Text) : Text :=
  match Text.stripPrefix? "pub".toList line with
  | none => line
  | some ('(' :: scope) =>
    match Text.cutFirst? [')'] scope with
    | some (_, rest) => Text.trimStart rest
    | none => line
  | some rest => if Text.startsBlank rest then Text.trimStart rest else line

/-- The line begins with `fn main` and an opening bracket. -/
def declaresMain (line : Text) : Bool :=
  match Text.stripPrefix? "fn".toList line with
  | none => false
  | some rest =>
    Text.startsBlank rest
      && match Text.stripPrefix? "main".toList (Text.trimStart rest) with
        | some rest => Text.startsWith (Text.trimStart rest) ['(']
        | none => false

/-- The fragment defines the function `main` at its top level. -/
def definesEntryPoint (code : Text) : Bool :=
  match topFunctions? code with
  | some names => names.contains "main".toList
  | none => (Text.lines code).any fun line => declaresMain (stripVisibility (Text.trim line))

end Fragment

end NotebookEngine
