import NotebookEngine.Host.Octets
import NotebookEngine.Text.CharClass

/-!
# Patterns

A pattern is a sequence of elements: a character, any character, any characters, or one out of a set.
`Pattern.covers` says whether a pattern covers the whole of a text, `trim` removes the shortest or
longest part that it covers.
-/

namespace NotebookEngine

namespace Shell

open Host (Octets)

/-- A character of a word after expansion; only one that is not quoted has a meaning in a pattern. -/
structure Mark where
  char : Char
  isQuoted : Bool
deriving DecidableEq, Repr

/-- An element of a pattern. -/
inductive Element where
  | char (c : Char)
  | anyChar
  | anyText
  /-- A character in one of the ranges, or in none of them. -/
  | set (negated : Bool) (ranges : List (Char × Char))
deriving DecidableEq, Repr

/-- A pattern. -/
abbrev Pattern := List Element

namespace Pattern

/-! ### Reading patterns -/

/-- The ranges of a set up to its closing bracket, and what follows; `isFirst` at the place where
the bracket stands for itself. -/
def ranges? : (steps : Nat) → (isFirst : Bool) → List Mark →
    Option (List (Char × Char) × List Mark)
  | 0, _, _ => none
  | n + 1, isFirst, ms =>
    match ms with
    | [] => none
    | m :: rest =>
      if m = ⟨']', false⟩ && !isFirst then some ([], rest)
      else
        let named := rest.drop 1 |>.takeWhile fun k => k.char ≠ ':'
        let afterName := rest.drop (1 + named.length)
        if m = ⟨'[', false⟩ && rest.head? = some ⟨':', false⟩
            && (afterName.map Mark.char).take 2 = [':', ']'] then
          (ranges? n false (afterName.drop 2)).map fun (rs, after) =>
            (Text.classRanges (named.map Mark.char) ++ rs, after)
        else match rest with
          | ⟨'-', false⟩ :: last :: after =>
            if last = ⟨']', false⟩ then
              (ranges? n false rest).map fun (rs, r) => ((m.char, m.char) :: rs, r)
            else (ranges? n false after).map fun (rs, r) => ((m.char, last.char) :: rs, r)
          | _ => (ranges? n false rest).map fun (rs, r) => ((m.char, m.char) :: rs, r)

/-- A set after its opening bracket, and what follows it. -/
def set? (ms : List Mark) : Option (Element × List Mark) :=
  match ms with
  | ⟨'!', false⟩ :: rest | ⟨'^', false⟩ :: rest =>
    (ranges? (rest.length + 1) true rest).map fun (rs, after) => (.set true rs, after)
  | _ => (ranges? (ms.length + 1) true ms).map fun (rs, after) => (.set false rs, after)

/-- The pattern of marked characters; `skip` counts those that belong to a set already read. -/
def ofMarksFrom (skip : Nat) : List Mark → Pattern
  | [] => []
  | m :: ms =>
    if 0 < skip then ofMarksFrom (skip - 1) ms
    else if m.isQuoted then .char m.char :: ofMarksFrom 0 ms
    else match m.char with
      | '*' => .anyText :: ofMarksFrom 0 ms
      | '?' => .anyChar :: ofMarksFrom 0 ms
      | '[' =>
        match set? ms with
        | some (e, rest) => e :: ofMarksFrom (ms.length - rest.length) ms
        | none => .char '[' :: ofMarksFrom 0 ms
      | '\\' =>
        match ms with
        | k :: _ => .char k.char :: ofMarksFrom 1 ms
        | [] => [.char '\\']
      | c => .char c :: ofMarksFrom 0 ms

/-- The pattern of marked characters. -/
def ofMarks (ms : List Mark) : Pattern :=
  ofMarksFrom 0 ms

/-! ### Matching -/

/-- An element stands for a character. -/
def standsFor (c : Char) : Element → Bool
  | .char d => c = d
  | .anyChar => true
  | .anyText => false
  | .set negated rs => (rs.any fun r => r.1 ≤ c && c ≤ r.2) != negated

/-- The patterns any of which may go on: any text may be no text. -/
def openings : Pattern → List Pattern
  | .anyText :: p => (.anyText :: p) :: openings p
  | p => [p]

/-- The patterns that may go on after a character. -/
def afterChar (c : Char) : Pattern → List Pattern
  | [] => []
  | .anyText :: p => openings (.anyText :: p)
  | e :: p => if standsFor c e then openings p else []

/-- The patterns that may go on after a character, of those that may go on before it. -/
def advance (c : Char) (ps : List Pattern) : List Pattern :=
  (ps.flatMap (afterChar c)).eraseDups

/-- The pattern covers the whole text. -/
def covers (p : Pattern) (s : Octets) : Bool :=
  (s.foldl (fun ps c => advance c ps) (openings p)).contains []

/-- The lengths of the beginnings that patterns cover, counted from a length. -/
def lengthsFrom : (n : Nat) → List Pattern → Octets → List Nat
  | n, ps, [] => if ps.contains [] then [n] else []
  | n, ps, c :: s =>
    if ps.isEmpty then []
    else (if ps.contains [] then [n] else []) ++ lengthsFrom (n + 1) (advance c ps) s

/-- The text without the part at its beginning that the pattern covers. -/
def trimFront (longest : Bool) (p : Pattern) (s : Octets) : Octets :=
  let ns := lengthsFrom 0 (openings p) s
  s.drop ((if longest then ns.getLast? else ns.head?).getD 0)

/-- The text without the part at its beginning, or its end, that the pattern covers. -/
def trim (atEnd longest : Bool) (p : Pattern) (s : Octets) : Octets :=
  if atEnd then (trimFront longest p.reverse s.reverse).reverse else trimFront longest p s

end Pattern

end Shell

end NotebookEngine
