import NotebookEngine.Shell.Calculation
import NotebookEngine.Shell.Pattern
import NotebookEngine.Shell.State

/-!
# Expansion of words

A word becomes fields in three steps: its pieces are replaced by what they stand for (`glyphs`),
unquoted values are divided (`divide`), and fields that are patterns are replaced by the paths they
cover (`paths`).
-/

namespace NotebookEngine

namespace Shell

open Host (Octets)

/-- What expansion leaves to the interpreter: to carry out commands for their output, and to end the
shell with a message. -/
structure Interpreting where
  outputOf : List Command → Run Octets
  /-- Does not come back. -/
  abort : Octets → Run Unit

/-- An element of an expanded word. -/
inductive Glyph where
  | char (c : Char) (isQuoted isDivided : Bool)
  /-- There were quotes, if with nothing in them. -/
  | present
  /-- One argument ends and the next begins. -/
  | border
deriving DecidableEq, Repr

/-! ### Dividing -/

/-- Fields while they are divided: those done, last first; the one under way; and whether only space
has ended the last one. -/
structure Division where
  done : List (List Mark) := []
  current : Option (List Mark) := none
  afterSpace : Bool := false

namespace Division

/-- The field under way is done. -/
def finish (d : Division) (afterSpace : Bool) : Division :=
  match d.current with
  | none => { d with afterSpace := d.afterSpace && afterSpace }
  | some f => ⟨f.reverse :: d.done, none, afterSpace⟩

/-- A character is added to the field under way. -/
def add (d : Division) (m : Mark) : Division :=
  { d with current := some (m :: d.current.getD []), afterSpace := false }

/-- The division after a glyph. -/
def next (separators : Octets) (d : Division) : Glyph → Division
  | .present => { d with current := some (d.current.getD []), afterSpace := false }
  | .border => d.finish false
  | .char c isQuoted isDivided =>
    if !isDivided || !separators.contains c then d.add ⟨c, isQuoted⟩
    else if Calculation.isSpace c then d.finish true
    else if d.current.isNone && !d.afterSpace then
      { d with done := [] :: d.done }
    else { d.finish false with afterSpace := false }

end Division

/-- The fields of an expanded word. -/
def divide (separators : Octets) (gs : List Glyph) : List (List Mark) :=
  ((gs.foldl (Division.next separators) {}).finish false).done.reverse

/-- The characters of an expanded word that is not divided. -/
def marks (gs : List Glyph) : List Mark :=
  gs.filterMap fun
    | .char c isQuoted _ => some ⟨c, isQuoted⟩
    | .present => none
    | .border => some ⟨' ', true⟩

/-- The characters of marks. -/
def textOf (ms : List Mark) : Octets :=
  ms.map Mark.char

/-! ### Paths -/

/-- A character that is not quoted makes a pattern of the field. -/
def isPattern (ms : List Mark) : Bool :=
  ms.any fun m => !m.isQuoted && (m.char = '*' || m.char = '?' || m.char = '[')

/-- The parts of a field between slashes. -/
def pathParts (ms : List Mark) : List (List Mark) :=
  ms.foldr (fun m parts =>
    if m.char = '/' then [] :: parts
    else match parts with
      | [] => [[m]]
      | p :: ps => (m :: p) :: ps) [[]]

/-- The paths that begin in one way and go on as the parts say. -/
def pathsFrom : (parts : List (List Mark)) → (begun : Octets) → Run (List Octets)
  | [], begun => do
    match ← host (.inspect begun) with
    | .ok _ => return [begun]
    | .error _ => return []
  | part :: parts, begun => do
    let slash : Octets := if parts.isEmpty then [] else ['/']
    if !isPattern part then pathsFrom parts (begun ++ textOf part ++ slash)
    else
      match ← host (.list (if begun.isEmpty then ['.'] else begun)) with
      | .error _ => return []
      | .ok names =>
        let pattern := Pattern.ofMarks part
        let isShown (name : Octets) : Bool :=
          name.head? ≠ some '.' || (part.map Mark.char).head? = some '.'
        let found := names.filter fun name => isShown name && pattern.covers name
        let mut all := []
        for name in found do
          all := all ++ (← pathsFrom parts (begun ++ name ++ slash))
        return all

/-- The paths that a field covers, or the field itself if there are none. -/
def paths (ms : List Mark) : Run (List Octets) := do
  if !isPattern ms || (← get).options.contains 'f' then return [textOf ms]
  match ← pathsFrom (pathParts ms) [] with
  | [] => return [textOf ms]
  | ps => return ps

/-! ### Values -/

/-- The characters of a value. -/
def glyphsOf (inQuotes : Bool) (s : Octets) : List Glyph :=
  s.map fun c => .char c inQuotes (!inQuotes)

/-- The value of a parameter that has one value. -/
def parameterValue (name : Octets) : Run (Option Octets) := do
  let s ← get
  match name with
  | ['#'] => return some (Text.ofNat s.arguments.length)
  | ['?'] => return some (Text.ofNat s.status)
  | ['$'] => return some (Text.ofNat s.id)
  | ['!'] => return s.background.map Text.ofNat
  | ['-'] => return some s.options
  | ['0'] => return some s.name
  | ['@'] | ['*'] =>
    if s.arguments.isEmpty then return none
    return some (Text.join (s.separators.take 1) s.arguments)
  | c :: _ =>
    if c.isDigit then
      return ((String.ofList name).toNat?).bind fun n => s.arguments[n - 1]?
    return s.value? name
  | [] => return none

/-- The glyphs of a value; all arguments are kept apart. -/
def valueGlyphs (name value : Octets) (inQuotes : Bool) : Run (List Glyph) := do
  let s ← get
  let apart := s.arguments.map fun a =>
    (if inQuotes then [Glyph.present] else []) ++ glyphsOf inQuotes a
  match name with
  | ['@'] => return (List.intersperse [.border] apart).flatten
  | ['*'] =>
    if inQuotes then return glyphsOf true value
    return (List.intersperse [.border] apart).flatten
  | _ => return glyphsOf inQuotes value

/-- The text without the ends of lines at its end. -/
def withoutEndLines (s : Octets) : Octets :=
  (s.reverse.dropWhile (· = '\n')).reverse

/-- The values of the named parameters as a calculation sees them. -/
def State.numbers (s : State) : List (Octets × Octets) :=
  s.bindings.filterMap fun (name, v) => v.value.map (name, ·)

mutual

/-- The glyphs of a piece; `isDivided` where plain characters are divided like values. -/
def pieceGlyphs (i : Interpreting) (isDivided : Bool) : Piece → Run (List Glyph)
  | .plain s => return s.map fun c => .char c false isDivided
  | .quoted [] => return [.present]
  | .quoted s => return s.map fun c => .char c true false
  | .home => do return glyphsOf true (((← get).value? "HOME".toList).getD ['~'])
  | .meaningless => do
    i.abort "Bad substitution".toList
    return []
  | .output body inQuotes => do
    return glyphsOf inQuotes (withoutEndLines ((← i.outputOf body).filter (· ≠ '\x00')))
  | .calculation expression inQuotes => do
    let text := textOf (marks (← wordGlyphs i false expression))
    let s ← get
    match Calculation.run text s.numbers with
    | .error f =>
      i.abort (f.messageIn text)
      return []
    | .ok (n, values) =>
      let assigned := values.take (values.length - s.numbers.length)
      for (name, value) in assigned.reverse do
        modify fun s => s.setVariable name value
      return glyphsOf inQuotes (Text.ofInt n)
  | .parameter name use inQuotes => useGlyphs i name inQuotes use

/-- The glyphs of a parameter, by what is made of it. -/
def useGlyphs (i : Interpreting) (name : Octets) (inQuotes : Bool) : Use → Run (List Glyph)
  | .value => do
    match ← parameterValue name with
    | some v => valueGlyphs name v inQuotes
    | none =>
      if (← get).options.contains 'u' && name ≠ ['@'] && name ≠ ['*'] then
        i.abort (name ++ ": parameter not set".toList)
      return []
  | .length => do
    return glyphsOf inQuotes (Text.ofNat ((← parameterValue name).getD []).length)
  | .trim atEnd longest pattern => do
    let value ← parameterValue name
    if value.isNone && (← get).options.contains 'u' then
      i.abort (name ++ ": parameter not set".toList)
    let p := Pattern.ofMarks (marks (← wordGlyphs i false pattern))
    return glyphsOf inQuotes (p.trim atEnd longest (value.getD []))
  | .fallback kind orEmpty word => do
    let value := (← parameterValue name).filter fun v => !(orEmpty && v.isEmpty)
    match value, kind with
    | some _, .instead => wordGlyphs i (!inQuotes) word
    | none, .instead => return []
    | some v, _ => valueGlyphs name v inQuotes
    | none, .otherwise => wordGlyphs i (!inQuotes) word
    | none, .assigning => do
      let v := textOf (marks (← wordGlyphs i (!inQuotes) word))
      modify fun s => s.setVariable name v
      return glyphsOf inQuotes v
    | none, .failing => do
      let told := textOf (marks (← wordGlyphs i (!inQuotes) word))
      let usual := if orEmpty then "parameter not set or null" else "parameter not set"
      i.abort (name ++ ": ".toList ++ if told.isEmpty then usual.toList else told)
      return []

/-- The glyphs of a word. -/
def wordGlyphs (i : Interpreting) (isDivided : Bool) : Word → Run (List Glyph)
  | [] => return []
  | .quoted [] :: .parameter ['@'] .value true :: w => do
    let rest ← wordGlyphs i isDivided w
    return (← valueGlyphs ['@'] [] true) ++ rest
  | p :: w => do
    let first ← pieceGlyphs i isDivided p
    return first ++ (← wordGlyphs i isDivided w)

end

/-! ### Words -/

/-- The fields of words. -/
def expandWords (i : Interpreting) : List Word → Run (List Octets)
  | [] => return []
  | w :: ws => do
    let gs ← wordGlyphs i false w
    let fields := divide (← get).separators gs
    let mut found := []
    for f in fields do
      found := found ++ (← paths f)
    return found ++ (← expandWords i ws)

/-- The text of a word that is not divided. -/
def expandText (i : Interpreting) (w : Word) : Run Octets := do
  return textOf (marks (← wordGlyphs i false w))

/-- The pattern of a word. -/
def expandPattern (i : Interpreting) (w : Word) : Run Pattern := do
  return Pattern.ofMarks (marks (← wordGlyphs i false w))

end Shell

end NotebookEngine
