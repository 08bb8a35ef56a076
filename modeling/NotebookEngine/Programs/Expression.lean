import NotebookEngine.Host.Octets
import NotebookEngine.Text.CharClass

/-!
# Regular expressions

The expressions that lines are searched for. `Expression.ofText?` reads one, in the plain form in
which operators need a backslash or in the extended form in which they need none. `Expression.search?`
finds the first place where it matches; among the ways to match there, repetition takes as much as it
can.
-/

namespace NotebookEngine

namespace Programs

open Host (Octets)

/-- A regular expression. -/
inductive Expression where
  | nothing
  /-- A character in one of the ranges, or in none of them. -/
  | one (negated : Bool) (ranges : List (Char × Char))
  | atStart
  | atEnd
  | sequence (first second : Expression)
  | either (first second : Expression)
  /-- At least and at most so many times. -/
  | repeated (body : Expression) (least : Nat) (most : Option Nat)
  | group (number : Nat) (body : Expression)
  | again (number : Nat)
deriving Repr

namespace Expression

/-! ### Reading -/

/-- What is left of the text of an expression, and how many groups have begun. -/
structure Reading where
  rest : Octets
  groups : Nat := 0
deriving DecidableEq, Repr

/-- A rule of reading; it fails on what is no expression. -/
abbrev Rule := StateT Reading Option

/-- An operator is taken if it comes: a character, after a backslash in the plain form. -/
def operator (extended : Bool) (c : Char) : Rule Bool := do
  let s ← get
  match extended, s.rest with
  | true, d :: r =>
    if c = d then
      set { s with rest := r }
      return true
    return false
  | false, '\\' :: d :: r =>
    if c = d then
      set { s with rest := r }
      return true
    return false
  | _, _ => return false

/-- An operator comes, and is left. -/
def sees (extended : Bool) (c : Char) : Rule Bool := do
  let s ← get
  let found ← operator extended c
  set s
  return found

/-- The ranges of a set up to its closing bracket, and what follows; `isFirst` at the place where
the bracket stands for itself. -/
def ranges? : (steps : Nat) → (isFirst : Bool) → Octets → Option (List (Char × Char) × Octets)
  | 0, _, _ => none
  | n + 1, isFirst, s =>
    match s with
    | [] => none
    | ']' :: r => if isFirst then next n ']' r else some ([], r)
    | '[' :: ':' :: r =>
      let name := r.takeWhile (· ≠ ':')
      match r.drop name.length with
      | ':' :: ']' :: r => (ranges? n false r).map fun (rs, r) => (Text.classRanges name ++ rs, r)
      | _ => next n '[' (':' :: r)
    | c :: r => next n c r
where
  /-- The ranges from a character on that stands for itself or begins a range. -/
  next (n : Nat) (c : Char) (r : Octets) : Option (List (Char × Char) × Octets) :=
    match r with
    | '-' :: ']' :: _ => (ranges? n false r).map fun (rs, r) => ((c, c) :: rs, r)
    | '-' :: d :: r => (ranges? n false r).map fun (rs, r) => ((c, d) :: rs, r)
    | r => (ranges? n false r).map fun (rs, r) => ((c, c) :: rs, r)

/-- The numbers in the braces of a repetition. -/
def bounds (extended : Bool) : Rule (Nat × Option Nat) := do
  let s ← get
  let least := s.rest.takeWhile Char.isDigit
  let r := s.rest.drop least.length
  let n := ((String.ofList least).toNat?).getD 0
  match r with
  | ',' :: r =>
    let most := r.takeWhile Char.isDigit
    set { s with rest := r.drop most.length }
    if !(← operator extended '\x7d') then failure
    return (n, (String.ofList most).toNat?)
  | r =>
    set { s with rest := r }
    if !(← operator extended '\x7d') then failure
    return (n, some n)

/-- A character by itself. -/
def literal (c : Char) : Expression :=
  .one false [(c, c)]

mutual

/-- Alternatives. -/
def alternatives : (steps : Nat) → (extended : Bool) → Rule Expression
  | 0, _ => failure
  | n + 1, extended => do
    let first ← parts n extended true
    if ← operator extended '|' then return .either first (← alternatives n extended)
    return first

/-- Parts one after the other; `isFirst` where an operator of repetition stands for itself. -/
def parts : (steps : Nat) → (extended : Bool) → (isFirst : Bool) → Rule Expression
  | 0, _, _ => failure
  | n + 1, extended, isFirst => do
    if (← get).rest.isEmpty || (← sees extended '|') || (← sees extended ')') then
      return .nothing
    let e ← atom n extended isFirst
    let e ← repetitions n extended e
    let isAnchor := match e with
      | .atStart => true
      | _ => false
    return .sequence e (← parts n extended (isFirst && isAnchor && !extended))

/-- The operators of repetition after a part. -/
def repetitions : (steps : Nat) → (extended : Bool) → Expression → Rule Expression
  | 0, _, _ => failure
  | n + 1, extended, e => do
    let isAnchor := match e with
      | .atStart => true
      | _ => false
    if isAnchor && !extended then return e
    if ← operator true '*' then return ← repetitions n extended (.repeated e 0 none)
    if ← operator extended '+' then return ← repetitions n extended (.repeated e 1 none)
    if ← operator extended '?' then return ← repetitions n extended (.repeated e 0 (some 1))
    if ← operator extended '\x7b' then
      let (least, most) ← bounds extended
      return ← repetitions n extended (.repeated e least most)
    return e

/-- A part without repetition. -/
def atom : (steps : Nat) → (extended : Bool) → (isFirst : Bool) → Rule Expression
  | 0, _, _ => failure
  | n + 1, extended, isFirst => do
    if ← operator extended '(' then
      let s ← get
      let number := s.groups + 1
      set { s with groups := number }
      let body ← alternatives n extended
      if !(← operator extended ')') then failure
      return .group number body
    let s ← get
    match s.rest with
    | [] => failure
    | '\\' :: c :: r =>
      set { s with rest := r }
      if c.isDigit && c ≠ '0' then return .again (c.toNat - '0'.toNat)
      return match c with
        | 'n' => literal '\n'
        | 't' => literal '\t'
        | 'w' => .one false [('a', 'z'), ('A', 'Z'), ('0', '9'), ('_', '_')]
        | 'W' => .one true [('a', 'z'), ('A', 'Z'), ('0', '9'), ('_', '_')]
        | 's' => .one false [(' ', ' '), ('\t', '\r')]
        | 'S' => .one true [(' ', ' '), ('\t', '\r')]
        | c => literal c
    | '.' :: r =>
      set { s with rest := r }
      return .one true []
    | '[' :: '^' :: r =>
      let (rs, r) ← (ranges? (r.length + 1) true r : Option _)
      set { s with rest := r }
      return .one true rs
    | '[' :: r =>
      let (rs, r) ← (ranges? (r.length + 1) true r : Option _)
      set { s with rest := r }
      return .one false rs
    | '^' :: r =>
      set { s with rest := r }
      return if extended || isFirst then .atStart else literal '^'
    | '$' :: r =>
      set { s with rest := r }
      let closes := r.isEmpty || (!extended && (Text.startsWith r ['\\', ')']
        || Text.startsWith r ['\\', '|']))
      return if extended || closes then .atEnd else literal '$'
    | c :: r =>
      set { s with rest := r }
      return literal c

end

/-- The expression that a text is, in the plain or the extended form. -/
def ofText? (extended : Bool) (s : Octets) : Option Expression :=
  match (alternatives (8 * (s.length + 2)) extended).run { rest := s } with
  | some (e, r) => if r.rest.isEmpty then some e else none
  | none => none

/-! ### Matching -/

/-- A place in a text: how many characters are before it, and what is after it. -/
structure Place where
  before : Nat
  after : Octets
deriving DecidableEq, Repr

/-- The groups that have matched, by their numbers: where they begin, and the text. -/
abbrev Groups := List (Nat × Octets)

/-- A way to go on from a place. -/
abbrev Onward := Place → Groups → Option (Place × Groups)

/-- Two characters are the same, or differ in case only where that does not count. -/
def same (ignoreCase : Bool) (a b : Char) : Bool :=
  a = b || (ignoreCase && a.toLower = b.toLower)

/-- The character is in one of the ranges. -/
def inRanges (ignoreCase : Bool) (rs : List (Char × Char)) (c : Char) : Bool :=
  let isIn (c : Char) : Bool := rs.any fun r => r.1 ≤ c && c ≤ r.2
  isIn c || (ignoreCase && (isIn c.toLower || isIn c.toUpper))

/-- An expression matches from a place on, and what follows can go on from there. -/
def follow (ignoreCase : Bool) : (steps : Nat) → Expression → Onward → Onward
  | 0, _, _, _, _ => none
  | n + 1, e, next, p, gs =>
    match e with
    | .nothing => next p gs
    | .one negated rs =>
      match p.after with
      | c :: r => if inRanges ignoreCase rs c != negated then next ⟨p.before + 1, r⟩ gs else none
      | [] => none
    | .atStart => if p.before = 0 then next p gs else none
    | .atEnd => if p.after.isEmpty then next p gs else none
    | .sequence first second =>
      follow ignoreCase n first (follow ignoreCase n second next) p gs
    | .either first second =>
      (follow ignoreCase n first next p gs).or (follow ignoreCase n second next p gs)
    | .group number body =>
      follow ignoreCase n body
        (fun q hs =>
          let taken := p.after.take (q.before - p.before)
          next q ((number, taken) :: hs.filter fun g => g.1 ≠ number))
        p gs
    | .again number =>
      let t := (gs.lookup number).getD []
      let met := p.after.take t.length
      if met.length = t.length && (met.zip t).all fun (a, b) => same ignoreCase a b then
        next ⟨p.before + t.length, p.after.drop t.length⟩ gs
      else none
    | .repeated body least most =>
      let more : Option (Place × Groups) :=
        if most = some 0 then none
        else follow ignoreCase n body
          (fun q hs =>
            if q.before = p.before then none
            else follow ignoreCase n (.repeated body (least - 1) (most.map (· - 1))) next q hs)
          p gs
      if 0 < least then
        more.or (follow ignoreCase n body
          (fun q hs =>
            if q.before = p.before then
              follow ignoreCase n (.repeated body (least - 1) (most.map (· - 1))) next q hs
            else none)
          p gs)
      else more.or (next p gs)

/-- Where an expression matches: where the match begins and ends, and its groups. -/
structure Match where
  start : Nat
  stop : Nat
  groups : Groups
deriving DecidableEq, Repr

/-- The first match from a place on. -/
def searchFrom (ignoreCase : Bool) (e : Expression) (steps : Nat) : (before : Nat) → Octets →
    Option Match
  | before, s =>
    match follow ignoreCase steps e (fun q gs => some (q, gs)) ⟨before, s⟩ [] with
    | some (q, gs) => some ⟨before, q.before, gs⟩
    | none =>
      match s with
      | [] => none
      | _ :: r => searchFrom ignoreCase e steps (before + 1) r

/-- The first match in a text after so many characters of it. -/
def search? (ignoreCase : Bool) (e : Expression) (skipped : Nat) (s : Octets) : Option Match :=
  searchFrom ignoreCase e (8 * s.length + 1000) skipped (s.drop skipped)

end Expression

end Programs

end NotebookEngine
