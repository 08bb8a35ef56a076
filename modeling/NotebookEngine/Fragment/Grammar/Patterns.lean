import NotebookEngine.Fragment.Grammar.Types

/-!
# The grammar of patterns

`pattern` reads one pattern, `patterns` alternatives with bars between them, perhaps with one before
the first.
-/

namespace NotebookEngine

namespace Fragment

namespace Grammar

/-- A bar between alternatives. -/
def isBar (ts : Tokens) : Bool :=
  isMark "|" ts && !isMark "||" ts && !isMark "|=" ts

/-- Alternatives; the shape is that of a single pattern without bars. -/
def patterns (parse : Recogniser) (ts : Tokens) : Option (Shape × Tokens) :=
  (optionalMark "|" ts).bind fun rest =>
    (parse .pattern rest).bind fun (s, rest) =>
      if isBar rest then plain (repeated isBar (mark "|" >=> parse.rule .pattern)) rest
      else some (if isMark "|" ts then .other else s, rest)

/-- Alternatives as a rule. -/
def alternatives (parse : Recogniser) : Rule :=
  fun ts => (patterns parse ts).map Prod.snd

/-- One end of a range may be missing here. -/
def endsRange (ts : Tokens) : Bool :=
  atEnd ts || isMark "|" ts || isMark "=" ts || isColon ts || isMark "," ts || isMark ";" ts
    || isWord "if" ts

/-- An end of a range. -/
def rangeEnd (parse : Recogniser) : Rule := fun ts =>
  if isLiteral ts then literal ts
  else if startsPath ts then (qualifiedPath parse true ts).map Prod.snd
  else if isWord "const" ts then
    (word "const" >=> within .curly (innerAttributes parse >=> parse.rule .statements)) ts
  else none

/-- A range from its marks on; only one with two points may lack its end. -/
def rangeFrom (parse : Recogniser) (ts : Tokens) : Option (Shape × Tokens) :=
  let closed := isMark "..=" ts || isMark "..." ts
  let rest := ts.drop (if closed then 3 else 2)
  if endsRange rest then if closed then none else some (.openRange, rest)
  else plain (rangeEnd parse) rest

/-- The member of a pattern with fields: a name or an index. -/
def isMember : Tokens → Bool
  | .literal (.integer isIndex) :: _ => isIndex
  | ts => isName ts

/-- One field of a pattern. -/
def fieldPattern (parse : Recogniser) : Rule := fun ts =>
  if isOneOf ["box", "ref", "mut"] ts then
    (optionalWord "box" >=> optionalWord "ref" >=> optionalWord "mut" >=> name) ts
  else
    (one isMember ts).bind fun rest =>
      if isMark ":" rest || !isName ts then (mark ":" >=> alternatives parse) rest else some rest

/-- The fields of a pattern, so many at most. -/
def fieldPatterns (parse : Recogniser) : Nat → Rule
  | 0, _ => none
  | n + 1, ts =>
    if atEnd ts then some ts
    else outerAttributes parse ts >>= fun ts =>
      if isMark ".." ts then mark ".." ts
      else fieldPattern parse ts >>= fun ts =>
        if atEnd ts then some ts else mark "," ts >>= fieldPatterns parse n

/-- A pattern that begins with a path. -/
def pathPattern (parse : Recogniser) (ts : Tokens) : Option (Shape × Tokens) :=
  (qualifiedPath parse true ts).bind fun (p, ts) =>
    if !p.qualified && isMark "!" ts && !isMark "!=" ts && p.isPlain then
      plain (mark "!" >=> group) ts
    else if isOpening .curly ts then
      plain (within .curly (fun ts => fieldPatterns parse (ts.length + 1) ts)) ts
    else if isOpening .round ts then plain (within .round (listed (alternatives parse))) ts
    else if isMark ".." ts then rangeFrom parse ts
    else some (.other, ts)

/-- A pattern that names what it matches. -/
def namePattern (parse : Recogniser) : Rule :=
  optionalWord "ref" >=> optionalWord "mut" >=> one (fun ts => isName ts || isWord "self" ts)
    >=> when (isMark "@") (mark "@" >=> parse.rule .pattern)

/-- An element of a slice; a range open at one end needs brackets. -/
def sliceElement (parse : Recogniser) : Rule := fun ts =>
  match patterns parse ts with
  | some (.openRange, _) => none
  | some (_, ts) => some ts
  | none => none

/-- One pattern. -/
def pattern (parse : Recogniser) (ts : Tokens) : Option (Shape × Tokens) :=
  if (isName ts && (second (isMark "::") ts || second (isMark "!") ts
        || second (isOpening .curly) ts || second (isOpening .round) ts || second (isMark "..") ts))
      || (isWord "self" ts && second (isMark "::") ts)
      || isMark "::" ts || isMark "<" ts || isOneOf ["Self", "super", "crate"] ts then
    pathPattern parse ts
  else if isWord "_" ts then plain (word "_") ts
  else if isWord "box" ts then plain (word "box" >=> parse.rule .pattern) ts
  else if isMark "-" ts || isLiteral ts || isWord "const" ts then
    (rangeEnd parse ts).bind fun ts =>
      if isMark ".." ts then rangeFrom parse ts else some (.other, ts)
  else if isOneOf ["ref", "mut", "self"] ts || isName ts then plain (namePattern parse) ts
  else if isMark "&" ts then
    plain (mark "&" >=> optionalWord "mut" >=> parse.rule .pattern) ts
  else if isOpening .round ts then plain (within .round (listed (alternatives parse))) ts
  else if isOpening .square ts then plain (within .square (listed (sliceElement parse))) ts
  else if isMark ".." ts && !isMark "..." ts then
    let closed := isMark "..=" ts
    let rest := ts.drop (if closed then 3 else 2)
    if endsRange rest then if closed then none else some (.rest, rest)
    else shaped .openRange (rangeEnd parse) rest
  else none

end Grammar

end Fragment

end NotebookEngine
