import NotebookEngine.Fragment.Grammar.Basic

/-!
# The grammar of paths, types and bounds

Attributes, visibilities, paths with their arguments, generic parameters, bounds, `where` clauses
and types.
-/

namespace NotebookEngine

namespace Fragment

namespace Grammar

/-! ### Attributes and visibility -/

/-- A word of a path without arguments. -/
def modSegment : Rule :=
  one fun ts => isName ts || isOneOf ["super", "self", "Self", "crate"] ts

/-- The words of a path without arguments, so many at most. -/
def modSegments : Nat → Rule
  | 0, _ => none
  | n + 1, ts =>
    modSegment ts >>= fun ts =>
      if isMark "::" ts then mark "::" ts >>= modSegments n else some ts

/-- A path without arguments. -/
def modPath : Rule :=
  optionalMark "::" >=> fun ts => modSegments (ts.length + 1) ts

/-- The content of an attribute: a path, and a group or a value after it. -/
def attributeContent (parse : Recogniser) : Rule :=
  either (isWord "unsafe") (word "unsafe") modPath >=> fun ts =>
    if isOpening .round ts || isOpening .square ts || isOpening .curly ts then group ts
    else if isMark "=" ts && !isMark "==" ts && !isMark "=>" ts then
      mark "=" ts >>= fun ts =>
        if isMark "#" ts && second (isOpening .square) ts then none
        else parse.rule (.expression true) ts
    else some ts

/-- The attributes of what follows. -/
def outerAttributes (parse : Recogniser) : Rule :=
  repeated (isMark "#") (mark "#" >=> within .square (attributeContent parse))

/-- The attributes of what they stand in. -/
def innerAttributes (parse : Recogniser) : Rule :=
  repeated (fun ts => isMark "#" ts && second (isMark "!") ts)
    (mark "#" >=> mark "!" >=> within .square (attributeContent parse))

/-- A visibility, perhaps none. Brackets after `pub` belong to it only if they hold a module. -/
def visibility : Rule :=
  when (isWord "pub") <| word "pub" >=> fun ts =>
    let inModule : Rule := within .round (word "in" >=> modPath)
    let here : Rule := within .round (one (isOneOf ["crate", "self", "super"]))
    match ts with
    | .opening .round :: rest => if isWord "in" rest then inModule ts else some ((here ts).getD ts)
    | _ => some ts

/-! ### Paths -/

/-- A path as far as the phrase around it asks: whether it begins with a type in angle brackets or
with `::`, the number of its segments, and which of them have arguments. -/
structure Path where
  qualified : Bool := false
  absolute : Bool := false
  count : Nat := 1
  isPlain : Bool := true
  lastIsPlain : Bool := true
  hasInputs : Bool := false

/-- One segment of a path; in an expression the arguments need a `::` before them. The result
says whether there are none. -/
def segment (parse : Recogniser) (inExpression : Bool) (ts : Tokens) : Option (Bool × Tokens) :=
  if isOneOf ["super", "self", "crate", "try"] ts then some (true, ts.tail)
  else
    (either (isWord "Self") (word "Self") name ts).bind fun ts =>
      if (!inExpression && isMark "<" ts && !isMark "<=" ts)
          || (isMark "::" ts && third (isMark "<") ts) then
        ((optionalMark "::" >=> parse.rule .arguments) ts).map fun ts => (false, ts)
      else some (true, ts)

/-- Further segments of a path, so many at most. -/
def moreSegments (parse : Recogniser) (inExpression : Bool) :
    Nat → Path → Tokens → Option (Path × Tokens)
  | 0, p, ts => some (p, ts)
  | n + 1, p, ts =>
    if isMark "::" ts && !third (isOpening .round) ts then
      match segment parse inExpression (ts.drop 2) with
      | some (plain, ts) =>
        moreSegments parse inExpression n
          { p with count := p.count + 1, isPlain := p.isPlain && plain, lastIsPlain := plain } ts
      | none => none
    else some (p, ts)

/-- A path. -/
def path (parse : Recogniser) (inExpression : Bool) (ts : Tokens) : Option (Path × Tokens) :=
  (optionalMark "::" ts).bind fun rest =>
    (segment parse inExpression rest).bind fun (plain, rest) =>
      moreSegments parse inExpression rest.length
        { absolute := isMark "::" ts, isPlain := plain, lastIsPlain := plain } rest

/-- The segments of a path after a type in angle brackets, so many at most. -/
def qualifiedSegments (parse : Recogniser) (inExpression : Bool) :
    Nat → Tokens → Option (Bool × Tokens)
  | 0, _ => none
  | n + 1, ts =>
    (segment parse inExpression ts).bind fun (plain, ts) =>
      if isMark "::" ts then qualifiedSegments parse inExpression n (ts.drop 2)
      else some (plain, ts)

/-- A path that may begin with a type in angle brackets. -/
def qualifiedPath (parse : Recogniser) (inExpression : Bool) (ts : Tokens) :
    Option (Path × Tokens) :=
  if isMark "<" ts then
    (mark "<" >=> parse.rule (.type true)
      >=> when (isWord "as") (word "as" >=> fun ts => (path parse false ts).map Prod.snd)
      >=> mark ">" >=> mark "::") ts |>.bind fun ts =>
        (qualifiedSegments parse inExpression (ts.length + 1) ts).map fun (plain, ts) =>
          ({ qualified := true, isPlain := plain, lastIsPlain := plain }, ts)
  else path parse inExpression ts

/-- The result type of a function, where a sum may stand or not. -/
def output (parse : Recogniser) (withSum : Bool) : Rule :=
  when (isMark "->") (mark "->" >=> parse.rule (.type withSum))

/-- The inputs of a function trait; the result says whether a path may go on after them. -/
def inputs (parse : Recogniser) (ts : Tokens) : Option (Bool × Tokens) :=
  (within .round (listed (parse.rule (.type true))) ts).bind fun ts =>
    if isMark "->" ts then
      (mark "->" ts).bind fun ts =>
        (parse (.type false) ts).map fun (s, ts) => (s = .typeGroup, ts)
    else some (true, ts)

/-- The inputs of a function trait may follow a path. -/
def startsInputs (p : Path) (ts : Tokens) : Bool :=
  p.lastIsPlain && (isOpening .round ts || (isMark "::" ts && third (isOpening .round) ts))

/-- A path of types with the inputs of function traits after it, so many at most. -/
def pathInputs (parse : Recogniser) : Nat → Path → Tokens → Option (Path × Tokens)
  | 0, p, ts => some (p, ts)
  | n + 1, p, ts =>
    if startsInputs p ts then
      (optionalMark "::" ts).bind fun ts =>
        (inputs parse ts).bind fun (goesOn, ts) =>
          let p := { p with isPlain := false, lastIsPlain := false, hasInputs := true }
          if goesOn then
            (moreSegments parse false ts.length p ts).bind fun (p, ts) => pathInputs parse n p ts
          else some (p, ts)
    else some (p, ts)

/-- A path that is a type. -/
def typePath (parse : Recogniser) (ts : Tokens) : Option (Path × Tokens) :=
  (qualifiedPath parse false ts).bind fun (p, ts) => pathInputs parse ts.length p ts

/-! ### Generic parameters and bounds -/

/-- A constant as an argument: a literal, a name or a block. -/
def constantArgument (parse : Recogniser) : Rule := fun ts =>
  if isLiteral ts then literal ts
  else if isName ts then name ts
  else if isOpening .curly ts then
    within .curly (innerAttributes parse >=> parse.rule .statements) ts
  else none

/-- One generic parameter, its attributes read. -/
def parameter (parse : Recogniser) : Rule := fun ts =>
  if isLifetime ts then
    (lifetime >=> when (isMark ":") (mark ":" >=>
      summed (fun ts => isMark "," ts || isMark ">" ts) lifetime)) ts
  else if isName ts then
    (name >=> when (isMark ":") (mark ":" >=>
        summed (fun ts => isMark "," ts || isMark ">" ts || isMark "=" ts)
          (parse.rule (.bound false)))
      >=> when (isMark "=") (mark "=" >=> parse.rule (.type true))) ts
  else if isWord "const" ts then
    (word "const" >=> name >=> mark ":" >=> parse.rule (.type true)
      >=> when (isMark "=") (mark "=" >=> constantArgument parse)) ts
  else word "_" ts

/-- Generic parameters, perhaps none. -/
def generics (parse : Recogniser) : Rule :=
  when (isMark "<") <| mark "<"
    >=> separated (isMark ">") (mark ",") (outerAttributes parse >=> parameter parse)
    >=> mark ">"

/-- The lifetimes that a bound is for, perhaps none. -/
def boundLifetimes (parse : Recogniser) : Rule :=
  when (isWord "for") <| word "for" >=> mark "<"
    >=> separated (isMark ">") (mark ",") (outerAttributes parse >=> parameter parse)
    >=> mark ">"

/-- What follows are generic parameters, not the type that a path begins with. -/
def startsGenerics (ts : Tokens) : Bool :=
  isMark "<" ts
    && (second (isMark ">") ts
      || second (isMark "#") ts
      || ((second isName ts || second isLifetime ts)
        && ((third (isMark ":") ts && !third (isMark "::") ts)
          || third (isMark ",") ts || third (isMark ">") ts || third (isMark "=") ts))
      || second (isWord "const") ts)

/-- A trait as a bound. -/
def traitBound (parse : Recogniser) : Rule := fun ts =>
  (boundLifetimes parse
    >=> when (isOpening .square) (within .square (word "const"))
    >=> when (isWord "const") (word "const")
    >=> when (fun ts => isMark "~" ts && second (isWord "const") ts) (mark "~" >=> word "const")
    >=> fun rest =>
      if isMark "?" rest then
        if isWord "for" ts then none else (mark "?" >=> boundLifetimes parse) rest
      else some rest) ts |>.bind fun ts =>
    (path parse false ts).bind fun (p, ts) =>
      if startsInputs p ts then
        (optionalMark "::" ts).bind fun ts => (inputs parse ts).map Prod.snd
      else some ts

/-- The names that a type captures. -/
def capture : Rule :=
  word "use" >=> mark "<"
    >=> separated (isMark ">") (mark ",")
      (either isLifetime lifetime (one fun ts => isName ts || isWord "Self" ts))
    >=> mark ">"

/-- One bound; captured names only where they are allowed. -/
def bound (parse : Recogniser) (withCapture : Bool) (ts : Tokens) : Option (Shape × Tokens) :=
  if isLifetime ts then plain lifetime ts
  else if isWord "use" ts then if withCapture then plain capture ts else none
  else if isOpening .round ts then shaped .trait (within .round (traitBound parse)) ts
  else shaped .trait (traitBound parse) ts

/-- The next tokens may begin another bound of a type. -/
def startsBound (ts : Tokens) : Bool :=
  isAnyWord ts || isMark "::" ts || isMark "?" ts || isLifetime ts || isOpening .round ts

/-- The bounds of a type with whether one of them is a trait, so many at most. -/
def boundsUpTo (parse : Recogniser) (withSum withCapture : Bool) :
    Nat → (met : Bool) → Tokens → Option (Bool × Tokens)
  | 0, _, _ => none
  | n + 1, met, ts =>
    (parse (.bound withCapture) ts).bind fun (s, ts) =>
      let met := met || s = .trait
      if withSum && isMark "+" ts then
        let rest := ts.tail
        if startsBound rest || isOpening .square rest then
          boundsUpTo parse withSum withCapture n met rest
        else some (met, rest)
      else some (met, ts)

/-- The bounds of a type, of which one is a trait. -/
def bounds (parse : Recogniser) (withSum withCapture : Bool) : Rule := fun ts =>
  match boundsUpTo parse withSum withCapture (ts.length + 1) false ts with
  | some (true, ts) => some ts
  | _ => none

/-- A colon that is not the first of two. -/
def isColon (ts : Tokens) : Bool :=
  isMark ":" ts && !isMark "::" ts

/-- What ends the predicates of a `where` clause. -/
def endsPredicate (ts : Tokens) : Bool :=
  atEnd ts || isOpening .curly ts || isMark "," ts || isMark ";" ts || isColon ts || isMark "=" ts

/-- A predicate of a `where` clause. -/
def predicate (parse : Recogniser) : Rule := fun ts =>
  if isLifetime ts && second (isMark ":") ts then
    (lifetime >=> mark ":" >=> summed (fun ts => endsPredicate ts || isMark ":" ts) lifetime) ts
  else
    (boundLifetimes parse >=> parse.rule (.type true) >=> mark ":"
      >=> summed endsPredicate (parse.rule (.bound false))) ts

/-- The predicates of a `where` clause, so many at most. -/
def predicates (parse : Recogniser) : Nat → Rule
  | 0, _ => none
  | n + 1, ts =>
    if endsPredicate ts then some ts
    else predicate parse ts >>= fun ts =>
      if isMark "," ts then mark "," ts >>= predicates parse n else some ts

/-- A `where` clause, perhaps none. -/
def whereClause (parse : Recogniser) : Rule :=
  when (isWord "where") <| word "where" >=> fun ts =>
    if startsGenerics ts then none else predicates parse (ts.length + 1) ts

/-! ### Arguments -/

/-- One argument in angle brackets. After a single name a value or bounds may follow. -/
def argument (parse : Recogniser) : Rule := fun ts =>
  if isLifetime ts && !second (isMark "+") ts then lifetime ts
  else if isLiteral ts || isOpening .curly ts then constantArgument parse ts
  else
    (parse (.type true) ts).bind fun (s, ts) =>
      if s = .typeName then
        if isMark "=" ts then
          (mark "=" ts).bind fun ts =>
            if isLiteral ts || isOpening .curly ts then constantArgument parse ts
            else parse.rule (.type true) ts
        else if isMark ":" ts then
          (mark ":" >=> summed (fun ts => isMark "," ts || isMark ">" ts)
            (parse.rule (.bound false))) ts
        else some ts
      else some ts

/-- Arguments in angle brackets. -/
def arguments (parse : Recogniser) : Rule :=
  mark "<" >=> separated (isMark ">") (mark ",") (argument parse) >=> mark ">"

/-! ### Types -/

/-- The calling convention of a function. -/
def convention : Rule :=
  word "extern" >=> when isString (one isString)

/-- One argument of a function type; the first may be the receiver. -/
def functionArgument (parse : Recogniser) (isFirst : Bool) : Rule := fun ts =>
  let mutable := isFirst && isWord "mut" ts && second (isWord "self") ts
  let rest := if mutable then ts.tail else ts
  let receiver := isFirst && isWord "self" rest
  if (isName rest || isWord "_" rest || receiver)
      && second (isMark ":") rest && !second (isMark "::") rest then
    parse.rule (.type true) (rest.drop 2)
  else if mutable then word "self" rest
  else parse.rule (.type true) rest

/-- The arguments of a function type, so many at most. -/
def functionArguments (parse : Recogniser) : Nat → (isFirst : Bool) → Rule
  | 0, _, _ => none
  | n + 1, isFirst, ts =>
    if atEnd ts then some ts
    else outerAttributes parse ts >>= fun ts =>
      if isMark "..." ts then (mark "..." >=> optionalMark ",") ts
      else if (isName ts || isWord "_" ts) && second (isMark ":") ts && third (isMark "...") ts then
        (anyWord >=> mark ":" >=> mark "..." >=> optionalMark ",") ts
      else functionArgument parse isFirst ts >>= fun ts =>
        if atEnd ts then some ts else mark "," ts >>= functionArguments parse n false

/-- A function type. -/
def functionType (parse : Recogniser) : Rule :=
  boundLifetimes parse >=> optionalWord "unsafe" >=> when (isWord "extern") convention
    >=> word "fn"
    >=> within .round (fun ts => functionArguments parse (ts.length + 1) true ts)
    >=> output parse false

/-- Further bounds of a type, each after a plus sign. -/
def furtherBounds (parse : Recogniser) : Rule :=
  repeated (isMark "+") (mark "+" >=> parse.rule (.bound false))

/-- A type in round brackets, a tuple, or a sum that begins in brackets. -/
def roundType (parse : Recogniser) (withSum : Bool) (ts : Tokens) : Option (Shape × Tokens) :=
  let content := ts.tail
  if atEnd content then plain (within .round some) ts
  else if isLifetime content then
    shaped .typeGroup (within .round (bounds parse true false)) ts
  else if isMark "?" content then
    plain (within .round (traitBound parse) >=> furtherBounds parse) ts
  else
    (parse (.type true) content).bind fun (s, rest) =>
      if isMark "," rest then
        plain (within .round (listed (parse.rule (.type true)))) ts
      else match rest with
        | .closing _ :: rest =>
          if withSum && isMark "+" rest && (s = .typeName || s = .typePath || s = .typeBound) then
            plain (furtherBounds parse) rest
          else some (.typeGroup, rest)
        | _ => none

/-- The bounds after the first of a type that is a sum, so many at most; the result says whether
there are any. -/
def sumUpTo (parse : Recogniser) : Nat → (met : Bool) → Tokens → Option (Bool × Tokens)
  | 0, met, ts => some (met, ts)
  | n + 1, met, ts =>
    if isMark "+" ts then
      if startsBound ts.tail then
        (parse.rule (.bound false) ts.tail).bind fun ts => sumUpTo parse n true ts
      else some (true, ts.tail)
    else some (met, ts)

/-- A type that begins with a path: the path, a macro call, or a sum of bounds. -/
def pathType (parse : Recogniser) (withSum isBound : Bool) (ts : Tokens) :
    Option (Shape × Tokens) :=
  (typePath parse ts).bind fun (p, ts) =>
    if p.qualified then some (.other, ts)
    else if isMark "!" ts && !isMark "!=" ts && p.isPlain then plain (mark "!" >=> group) ts
    else if withSum && isMark "+" ts then
      (sumUpTo parse ts.length false ts).map fun (many, ts) =>
        (if many then .other else .typeBound, ts)
    else if isBound then some (.typeBound, ts)
    else if !p.absolute && p.count = 1 && !p.hasInputs then some (.typeName, ts)
    else some (.typePath, ts)

/-- What may begin a type that is a path. -/
def startsPath (ts : Tokens) : Bool :=
  isName ts || isOneOf ["super", "self", "Self", "crate"] ts || isMark "::" ts || isMark "<" ts

/-- A type without the lifetimes it is for; `isBound` when there are some. -/
def typeAfter (parse : Recogniser) (withSum isBound : Bool) (ts : Tokens) :
    Option (Shape × Tokens) :=
  if isOpening .round ts then roundType parse withSum ts
  else if isOneOf ["fn", "unsafe", "extern"] ts then plain (functionType parse) ts
  else if startsPath ts then pathType parse withSum isBound ts
  else if isWord "dyn" ts then
    plain (word "dyn" >=> optionalMark "*" >=> bounds parse withSum false) ts
  else if isOpening .square ts then
    plain (within .square (parse.rule (.type true)
      >=> when (isMark ";") (mark ";" >=> parse.rule (.expression true)))) ts
  else if isMark "*" ts then
    plain (mark "*" >=> one (isOneOf ["const", "mut"]) >=> parse.rule (.type false)) ts
  else if isMark "&" ts then
    plain (mark "&" >=> when isLifetime lifetime >=> optionalWord "mut"
      >=> parse.rule (.type false)) ts
  else if isMark "!" ts && !isMark "=" ts then plain (mark "!") ts
  else if isWord "impl" ts then plain (word "impl" >=> bounds parse withSum true) ts
  else if isWord "_" ts then plain (word "_") ts
  else if isLifetime ts then plain (bounds parse withSum false) ts
  else none

/-- A type, perhaps with the lifetimes it is for. -/
def type (parse : Recogniser) (withSum : Bool) (ts : Tokens) : Option (Shape × Tokens) :=
  if isWord "for" ts then
    (boundLifetimes parse ts).bind fun ts =>
      if isName ts || isOneOf ["fn", "unsafe", "extern", "super", "self", "Self", "crate"] ts then
        typeAfter parse withSum true ts
      else none
  else typeAfter parse withSum false ts

end Grammar

end Fragment

end NotebookEngine
