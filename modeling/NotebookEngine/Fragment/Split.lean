import NotebookEngine.Fragment.EntryPoint
import NotebookEngine.Fragment.Scan

/-!
# Definitions and body of a compiled fragment

A fragment mixes items, which must stand at the level of a module, with statements to be run.
`split` separates them line by line. A line that begins an item or an attribute opens a definition,
which goes on until a line ends it (`Progress.next`); the other lines are the body. A fragment with
an entry point of its own is left whole.
-/

namespace NotebookEngine

namespace Fragment

/-- A fragment apart: its module-level definitions and the body to be run. -/
structure Parts where
  definitions : Text
  body : Option Text
  hasEntryPoint : Bool
deriving DecidableEq, Repr

/-- The program of these parts leaves a value. -/
def Parts.capturesValue (p : Parts) : Bool :=
  !p.hasEntryPoint && p.body.isSome

/-- Keywords that begin an item. -/
def itemKeywords : List Text :=
  ["fn", "struct", "enum", "union", "impl", "trait", "mod", "use", "const", "static", "type",
    "extern"].map String.toList

/-- Qualifiers that may precede the keyword of an item. -/
def itemQualifiers : List Text :=
  ["async", "unsafe", "default", "extern \"C\""].map String.toList

/-- What follows a word and the blanks after it, of which there is at least one. -/
def stripWord? (word line : Text) : Option Text :=
  match Text.stripPrefix? word line with
  | some rest => if Text.startsBlank rest then some (Text.trimStart rest) else none
  | none => none

/-- The line begins with the keyword of an item. -/
def startsKeyword (line : Text) : Bool :=
  itemKeywords.any fun keyword => (stripWord? keyword line).isSome

/-- What follows a qualifier, if the keyword of an item comes next. -/
def stripQualifier? (line : Text) : Option Text :=
  match itemQualifiers.findSome? (stripWord? · line) with
  | some rest => if startsKeyword rest then some rest else none
  | none => none

/-- The line begins with the keyword of an item, or with a qualifier before one. Stripping further
qualifiers would change nothing, as each must stand before a keyword too. -/
def startsQualified (line : Text) : Bool :=
  (stripQualifier? line).isSome || startsKeyword line

/-- A trimmed line begins an item. -/
def startsItem (line : Text) : Bool :=
  Text.startsWith line "macro_rules!".toList || startsQualified (stripVisibility line)

/-- A trimmed line begins an attribute. -/
def startsAttribute (line : Text) : Bool :=
  Text.startsWith line ['#', '['] || Text.startsWith line ['#', '!', '[']

/-- Where a line goes. -/
inductive Part where
  | definition
  | body
deriving DecidableEq, Repr

/-- Where the splitting stands between two lines: the braces open so far, and whether an attribute
or a definition is still open. As in `Scan`, the braces are counted without a bound; a count in 32
bits with a sign is the same as long as fewer than `2 ^ 31` braces have come. -/
structure Progress where
  depth : Int := 0
  inAttribute : Bool := false
  inDefinition : Bool := false
deriving DecidableEq, Repr

/-- The code of a line ends an item: it ends with a semicolon or a closing brace. -/
def endsItem (code : Text) : Bool :=
  Text.endsWith code [';'] || Text.endsWith code ['\x7d']

/-- Where a line goes, and the progress after it. -/
def Progress.next (p : Progress) (line : Text) : Part × Progress :=
  let scanned := scan line
  let depth := p.depth + scanned.delta
  let trimmed := Text.trim line
  let code := Text.trimEnd scanned.code
  if p.inAttribute || startsAttribute trimmed then
    (.definition, ⟨depth, !Text.endsWith code [']'], p.inDefinition⟩)
  else if p.inDefinition || startsItem trimmed then
    (.definition, ⟨depth, false, decide (0 < depth) || !endsItem code⟩)
  else
    (.body, ⟨depth, false, p.inDefinition⟩)

/-- The lines with where they go. -/
def Progress.place : Progress → List Text → List (Part × Text)
  | _, [] => []
  | p, line :: rest =>
    let (part, p) := p.next line
    (part, line) :: p.place rest

/-- The lines that go to a part. -/
def linesOf (part : Part) (placed : List (Part × Text)) : List Text :=
  (placed.filter fun l => l.1 = part).map Prod.snd

/-- The definitions and the body of a fragment. -/
def split (code : Text) : Parts :=
  let code := Text.trim code
  if definesEntryPoint code then ⟨code, none, true⟩
  else
    let placed := Progress.place {} (Text.lines code)
    let body := Text.trim (Text.join ['\n'] (linesOf .body placed))
    ⟨Text.join ['\n'] (linesOf .definition placed), if body.isEmpty then none else some body, false⟩

/-- Every line goes to one part, and the order is kept. -/
theorem map_snd_place (p : Progress) (lines : List Text) :
  (p.place lines).map Prod.snd = lines
  := by
  induction lines generalizing p with
  | nil => rfl
  | cons line rest ih => simp [Progress.place, ih]

end Fragment

end NotebookEngine
