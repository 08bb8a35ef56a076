import NotebookEngine.Text.Basic

/-!
# Tokens of a compiled fragment

The tokens that the grammar of a file is about: words, single punctuation marks, literals and
brackets. A mark is joint when another mark follows it directly, so that `..=` is three marks, two
of them joint. A lifetime is a joint quote before a word.
-/

namespace NotebookEngine

namespace Fragment

/-- The kinds of brackets. -/
inductive Bracket where
  | round
  | square
  | curly
deriving DecidableEq, Repr

/-- A literal, as far as the grammar looks at it. An integer is an index when it has no suffix and
fits 32 bits; a number with a point may be a path of indices, as in `x.0.1`, and may end in its
point. -/
inductive Literal where
  | string
  | integer (isIndex : Bool)
  | floating (isIndices : Bool) (endsInPoint : Bool)
  | other
deriving DecidableEq, Repr

/-- A token. A raw word is never a keyword. -/
inductive Token where
  | word (raw : Bool) (name : Text)
  | mark (c : Char) (joint : Bool)
  | literal (l : Literal)
  | opening (b : Bracket)
  | closing (b : Bracket)
deriving DecidableEq, Repr

/-- The bracket that a character opens. -/
def Bracket.ofOpening? : Char → Option Bracket
  | '(' => some .round
  | '[' => some .square
  | '\x7b' => some .curly
  | _ => none

/-- The bracket that a character closes. -/
def Bracket.ofClosing? : Char → Option Bracket
  | ')' => some .round
  | ']' => some .square
  | '\x7d' => some .curly
  | _ => none

end Fragment

end NotebookEngine
