import NotebookEngine.Text.Blank

/-!
# Languages

The languages a fragment can be written in. Each has one canonical tag (`Language.tag`), a few
more that are understood (`Language.ofTag?`), and the extensions of its source files
(`Language.ofExtension?`).
-/

namespace NotebookEngine

/-- The language of a fragment. -/
inductive Language where
  | python
  | rust
  | javascript
  | typescript
deriving DecidableEq, Repr

namespace Language

/-- All languages in their usual order. -/
def all : List Language :=
  [.python, .rust, .javascript, .typescript]

/-- The canonical tag. -/
def tag : Language → Text
  | .python => "python".toList
  | .rust => "rust".toList
  | .javascript => "javascript".toList
  | .typescript => "typescript".toList

/-- The tags understood for each language, in small letters. -/
def tags : List (Text × Language) :=
  [("python".toList, .python), ("py".toList, .python), ("python3".toList, .python),
    ("rust".toList, .rust), ("rs".toList, .rust),
    ("javascript".toList, .javascript), ("js".toList, .javascript),
    ("typescript".toList, .typescript), ("ts".toList, .typescript)]

/-- The extensions of source files, in small letters. -/
def extensions : List (Text × Language) :=
  [("py".toList, .python), ("rs".toList, .rust), ("js".toList, .javascript),
    ("mjs".toList, .javascript), ("cjs".toList, .javascript), ("ts".toList, .typescript),
    ("mts".toList, .typescript)]

/-- The language of a tag, whatever the case of its ASCII letters and the blanks around it. -/
def ofTag? (s : Text) : Option Language :=
  tags.lookup (Text.lowerAscii (Text.trim s))

/-- The language of a file extension, whatever the case of its ASCII letters. -/
def ofExtension? (s : Text) : Option Language :=
  extensions.lookup (Text.lowerAscii s)

/-- The canonical tag is understood. -/
theorem ofTag?_tag (l : Language) :
  ofTag? l.tag = some l
  := by
  cases l <;> decide

end Language

end NotebookEngine
