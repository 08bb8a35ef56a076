import NotebookEngine.Text.Blank

/-!
# Hoisting imports

Import statements must stand at the top of a module, not in the function around a fragment.
`extractImports` separates them, line by line, from the body of the fragment. An import goes on
over several lines until one with a semicolon, or one with both a closing brace and `from`.
-/

namespace NotebookEngine

namespace Script

/-- The import statements of a fragment and what is left of it. -/
structure Extracted where
  imports : List Text
  body : Text
deriving DecidableEq, Repr

/-- A quote of either kind. -/
def isQuote (c : Char) : Bool :=
  c = '\'' || c = '"'

/-- The text stands between two quotes of one kind and has no others. -/
def isQuoted : Text → Bool
  | [] => false
  | c :: rest =>
    match rest.getLast? with
    | none => false
    | some d => isQuote c && c = d && !(rest.dropLast.any isQuote)

/-- A module name may follow `from` directly or after a blank. -/
def startsModuleName : Text → Bool
  | [] => false
  | c :: _ => c = ' ' || c = '\t' || isQuote c

/-- A trimmed line that begins an import also ends it. -/
def isCompleteImport (line : Text) : Bool :=
  line.contains ';'
    || isQuoted (Text.trim (line.drop "import".length))
    || match Text.afterLast? "from".toList line with
      | some rest => startsModuleName rest && isQuoted (Text.trim rest)
      | none => false

/-- A trimmed line ends an import that was begun on an earlier line. -/
def endsImport (line : Text) : Bool :=
  line.contains ';' || (line.contains '\x7d' && Text.occurs "from".toList line)

/-- A trimmed line begins an import. -/
def startsImport (line : Text) : Bool :=
  Text.startsWith line "import ".toList

/-- The separation of a fragment, line by line: the statements found and the lines of the body,
the last ones first, and the statement that is not ended yet. -/
structure Separation where
  imports : List Text := []
  body : List Text := []
  open? : Option Text := none

/-- The separation after one more line. -/
def Separation.next (s : Separation) (line : Text) : Separation :=
  let trimmed := Text.trim line
  match s.open? with
  | some statement =>
    let statement := statement ++ '\n' :: line
    if endsImport trimmed then { s with imports := statement :: s.imports, open? := none }
    else { s with open? := some statement }
  | none =>
    if startsImport trimmed then
      if isCompleteImport trimmed then { s with imports := line :: s.imports }
      else { s with open? := some line }
    else { s with body := line :: s.body }

/-- The statements and the body. A statement that is not ended is an import too. -/
def Separation.close (s : Separation) : Extracted where
  imports := (match s.open? with
    | some statement => statement :: s.imports
    | none => s.imports).reverse
  body := Text.join ['\n'] s.body.reverse

/-- The import statements of a fragment and the rest of its lines. -/
def extractImports (code : Text) : Extracted :=
  ((Text.rows code).foldl Separation.next {}).close

end Script

end NotebookEngine
