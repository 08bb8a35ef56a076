import NotebookEngine.Text.Blank

/-!
# Returning the last expression

A script fragment is run inside a function, so its value is what the function returns. `addReturn`
finds the last line that is neither blank nor comment, reading backwards, and puts `return` before
it, unless the line closes a block or begins a statement. Every other line stays as it is.
-/

namespace NotebookEngine

namespace Script

/-- The dialect of a script. -/
inductive Dialect where
  | plain
  | typed
deriving DecidableEq, Repr

/-- Keywords that begin a statement in both dialects. -/
def statementKeywords : List Text :=
  ["const", "let", "var", "function", "class", "if", "else", "for", "while", "do", "switch",
    "try", "catch", "finally", "throw", "break", "continue", "return", "import", "export",
    "debugger", "with"].map String.toList

/-- Keywords that begin a statement in the typed dialect only. -/
def typedKeywords : List Text :=
  ["interface", "type", "enum", "namespace", "module", "declare", "abstract"].map String.toList

/-- Keywords that begin a statement. -/
def Dialect.keywords : Dialect → List Text
  | .plain => statementKeywords
  | .typed => statementKeywords ++ typedKeywords

/-- What may stand after a keyword: nothing, a space, a tab, a parenthesis or a semicolon. -/
def endsKeyword : Text → Bool
  | [] => true
  | c :: _ => c = ' ' || c = '\t' || c = '(' || c = ';'

/-- The line begins with a keyword. -/
def startsWithKeyword (line keyword : Text) : Bool :=
  match Text.stripPrefix? keyword line with
  | some rest => endsKeyword rest
  | none => false

/-- The line begins with one of the keywords of the dialect. -/
def Dialect.startsStatement (d : Dialect) (line : Text) : Bool :=
  d.keywords.any (startsWithKeyword line)

/-- The opening of a block comment. -/
def commentOpening : Text :=
  ['/', '*']

/-- The closing of a block comment. -/
def commentClosing : Text :=
  ['*', '/']

/-- A trimmed line without code: blank, or begun by a comment. -/
def isPassedOver (line : Text) : Bool :=
  line.isEmpty || Text.startsWith line ['/', '/'] || Text.startsWith line commentOpening

/-- A trimmed line that ends a block comment begun on an earlier line. -/
def closesComment (line : Text) : Bool :=
  Text.endsWith line commentClosing && !Text.occurs commentOpening line

/-- A trimmed line that has no value: it closes a block or begins a statement. -/
def Dialect.isStatement (d : Dialect) (line : Text) : Bool :=
  Text.endsWith line ['\x7d'] || d.startsStatement line

/-- The line with `return` after its indentation and one semicolon less at its end. -/
def wrapInReturn (line : Text) : Text :=
  let expression := Text.trimEnd line
  let expression := (Text.stripSuffix? [';'] expression).getD expression
  Text.indent line ++ "return ".toList ++ Text.trim expression

/-- The lines of a fragment, the last one first, with the last expression returned; `inComment`
when they end within a block comment. -/
def wrapBackward (d : Dialect) : (inComment : Bool) → List Text → List Text
  | _, [] => []
  | true, line :: rest =>
    line :: wrapBackward d (!Text.occurs commentOpening (Text.trim line)) rest
  | false, line :: rest =>
    let trimmed := Text.trim line
    if isPassedOver trimmed then line :: wrapBackward d false rest
    else if closesComment trimmed then line :: wrapBackward d true rest
    else if d.isStatement trimmed then line :: rest
    else wrapInReturn line :: rest

/-- The fragment with its last expression returned, and without blanks at its end. -/
def addReturn (d : Dialect) (code : Text) : Text :=
  Text.join ['\n'] (wrapBackward d false (Text.rows (Text.trimEnd code)).reverse).reverse

/-- The rewriting keeps the number of lines. -/
theorem length_wrapBackward (d : Dialect) (inComment : Bool) (lines : List Text) :
  (wrapBackward d inComment lines).length = lines.length
  := by
  induction lines generalizing inComment with
  | nil => cases inComment <;> rfl
  | cons line rest ih =>
    cases inComment
    · simp only [wrapBackward]
      split
      · simp [ih]
      · split
        · simp [ih]
        · split <;> simp
    · simp [wrapBackward, ih]

end Script

end NotebookEngine
