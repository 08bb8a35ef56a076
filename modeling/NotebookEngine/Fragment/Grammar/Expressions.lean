import NotebookEngine.Fragment.Grammar.Patterns

/-!
# The grammar of expressions and statements

Operators are read by precedence climbing: `continuation` extends an expression by the operators
that bind at least as strongly as a base. `withStruct` is false where a curly bracket begins a block,
as after `if`.
-/

namespace NotebookEngine

namespace Fragment

namespace Grammar

/-! ### Precedence -/

namespace Precedence

/-- Weaker than every operator. -/
def jump : Nat := 0

/-- Assignments. -/
def assign : Nat := 1

/-- Ranges. -/
def range : Nat := 2

/-- Comparisons. -/
def compare : Nat := 6

/-- Casts. -/
def cast : Nat := 13

end Precedence

/-- The binary operators with their precedence, the longer ones first. -/
def operators : List (String × Nat) :=
  [("<<=", 1), (">>=", 1), ("+=", 1), ("-=", 1), ("*=", 1), ("/=", 1), ("%=", 1), ("^=", 1),
    ("&=", 1), ("|=", 1), ("&&", 4), ("||", 3), ("<<", 10), (">>", 10), ("==", 6), ("<=", 6),
    ("!=", 6), (">=", 6), ("+", 11), ("-", 11), ("*", 12), ("/", 12), ("%", 12), ("^", 8),
    ("&", 9), ("|", 7), ("<", 6), (">", 6)]

/-- The operator that comes next, with what follows it. -/
def operator? (ts : Tokens) : Option (Nat × Tokens) :=
  (operators.find? fun o => isMark o.1 ts).map fun o => (o.2, ts.drop o.1.toList.length)

/-- An equals sign that begins no arrow. -/
def isAssignment (ts : Tokens) : Bool :=
  isMark "=" ts && !isMark "=>" ts

/-- The precedence of what comes next. -/
def nextPrecedence (ts : Tokens) : Nat :=
  match operator? ts with
  | some (p, _) => p
  | none =>
    if isAssignment ts then Precedence.assign
    else if isMark ".." ts then Precedence.range
    else if isWord "as" ts then Precedence.cast
    else Precedence.jump

/-! ### Blocks -/

/-- A block. -/
def braces (parse : Recogniser) : Rule :=
  within .curly (parse.rule .statements)

/-- A block that may begin with attributes of its own. -/
def body (parse : Recogniser) : Rule :=
  within .curly (innerAttributes parse >=> parse.rule .statements)

/-- An expression in which a curly bracket begins a block. -/
def condition (parse : Recogniser) : Rule :=
  parse.rule (.expression false)

/-- A chain of conditions, so many at most. -/
def conditional (parse : Recogniser) : Nat → Rule
  | 0, _ => none
  | n + 1, ts =>
    (word "if" >=> condition parse >=> braces parse) ts >>= fun ts =>
      if isWord "else" ts then
        if isWord "if" ts.tail then conditional parse n ts.tail else braces parse ts.tail
      else some ts

/-- One arm of a match. -/
def arm (parse : Recogniser) : Rule := fun ts =>
  (outerAttributes parse >=> alternatives parse
    >=> when (isWord "if") (word "if" >=> parse.rule (.expression true))
    >=> mark "=>") ts |>.bind fun ts =>
      (parse .statementExpression ts).bind fun (s, ts) =>
        if s = .block || atEnd ts then optionalMark "," ts else mark "," ts

/-- A loop, a block or a match that needs no label. -/
def loop? (parse : Recogniser) (ts : Tokens) : Option Rule :=
  if isWord "while" ts then some (word "while" >=> condition parse >=> body parse)
  else if isWord "for" ts then
    some (word "for" >=> alternatives parse >=> word "in" >=> condition parse >=> body parse)
  else if isWord "loop" ts then some (word "loop" >=> body parse)
  else if isOpening .curly ts then some (body parse)
  else none

/-- A loop or block with a label. -/
def labeled (parse : Recogniser) : Rule := fun ts =>
  (lifetime >=> mark ":") ts |>.bind fun ts => (loop? parse ts).bind fun rule => rule ts

/-- A match. -/
def matchExpression (parse : Recogniser) : Rule :=
  word "match" >=> condition parse
    >=> within .curly (innerAttributes parse >=> repeated (fun ts => !atEnd ts) (arm parse))

/-- The expressions that are statements without semicolon. -/
def blockLike? (parse : Recogniser) (ts : Tokens) : Option Rule :=
  if isWord "if" ts then some fun ts => conditional parse (ts.length + 1) ts
  else if isWord "match" ts then some (matchExpression parse)
  else if isWord "try" ts && second (isOpening .curly) ts then some (word "try" >=> braces parse)
  else if isWord "unsafe" ts then some (word "unsafe" >=> body parse)
  else if isWord "const" ts && second (isOpening .curly) ts then some (word "const" >=> body parse)
  else if isLifetime ts then some (labeled parse)
  else if isWord "for" ts && startsGenerics ts.tail then none
  else loop? parse ts

/-! ### Values -/

/-- The tokens that may begin an expression after `break` or `return`. -/
def startsExpression (ts : Tokens) : Bool :=
  (isAnyWord ts && !isWord "as" ts)
    || isOpening .round ts || isOpening .square ts || isOpening .curly ts || isLiteral ts
    || (isMark "!" ts && !isMark "!=" ts)
    || (isMark "-" ts && !isMark "-=" ts && !isMark "->" ts)
    || (isMark "*" ts && !isMark "*=" ts)
    || (isMark "|" ts && !isMark "|=" ts)
    || (isMark "&" ts && !isMark "&=" ts)
    || isMark ".." ts
    || (isMark "<" ts && !isMark "<=" ts && !isMark "<<=" ts)
    || isMark "::" ts || isLifetime ts || isMark "#" ts

/-- The value after `break`, `return` or `yield`, perhaps none. -/
def optionalValue (parse : Recogniser) (withStruct : Bool) : Rule :=
  when startsExpression (parse.rule (.expression withStruct))

/-- One field of a value with fields. -/
def fieldValue (parse : Recogniser) : Rule :=
  outerAttributes parse >=> fun ts =>
    (one isMember ts).bind fun rest =>
      if isMark ":" rest || !isName ts then
        (mark ":" >=> parse.rule (.expression true)) rest
      else some rest

/-- The fields of a value, so many at most; a base may come last. -/
def fieldValues (parse : Recogniser) : Nat → Rule
  | 0, _ => none
  | n + 1, ts =>
    if atEnd ts then some ts
    else if isMark ".." ts then
      if atEnd (ts.drop 2) then some (ts.drop 2) else parse.rule (.expression true) (ts.drop 2)
    else fieldValue parse ts >>= fun ts =>
      if atEnd ts then some ts else mark "," ts >>= fieldValues parse n

/-- An expression that begins with a path: the path, a macro call, or a value with fields. -/
def pathExpression (parse : Recogniser) (withStruct : Bool) (ts : Tokens) :
    Option (Shape × Tokens) :=
  (qualifiedPath parse true ts).bind fun (p, ts) =>
    if !p.qualified && isMark "!" ts && !isMark "!=" ts && p.isPlain then
      let s : Shape := if isOpening .curly ts.tail then .curlyCall else .other
      shaped s (mark "!" >=> group) ts
    else if withStruct && isOpening .curly ts then
      plain (within .curly (fun ts => fieldValues parse (ts.length + 1) ts)) ts
    else some (.other, ts)

/-- One parameter of a closure. -/
def closureParameter (parse : Recogniser) : Rule :=
  outerAttributes parse >=> parse.rule .pattern
    >=> when (isMark ":") (mark ":" >=> parse.rule (.type true))

/-- A closure. One that gives its result type has a block for a body. -/
def closure (parse : Recogniser) (withStruct : Bool) : Rule :=
  boundLifetimes parse >=> optionalWord "const" >=> optionalWord "static" >=> optionalWord "async"
    >=> optionalWord "move" >=> mark "|"
    >=> separated (isMark "|") (mark ",") (closureParameter parse) >=> mark "|"
    >=> either (isMark "->") (mark "->" >=> parse.rule (.type true) >=> braces parse)
      (parse.rule (.expression withStruct))

/-- An expression with parentheses or a tuple. -/
def roundExpression (parse : Recogniser) : Rule :=
  within .round (listed (parse.rule (.expression true)))

/-- A list, or a value repeated. -/
def squareExpression (parse : Recogniser) : Rule :=
  within .square fun ts =>
    if atEnd ts then some ts
    else (parse.rule (.expression true) ts).bind fun rest =>
      if isMark ";" rest then (mark ";" >=> parse.rule (.expression true)) rest
      else if atEnd rest || isMark "," rest then listed (parse.rule (.expression true)) ts
      else none

/-- The marks of a range in an expression. -/
def rangeMarks (ts : Tokens) : Option (Bool × Tokens) :=
  if isMark "..=" ts then some (true, ts.drop 3)
  else if isMark ".." ts && !isMark "..." ts then some (false, ts.drop 2)
  else none

/-- A range with two points has no end here. -/
def lacksEnd (withStruct : Bool) (ts : Tokens) : Bool :=
  atEnd ts || isMark "," ts || isMark ";" ts || (isMark "." ts && !isMark ".." ts)
    || isMark "?" ts || isMark "=>" ts || (!withStruct && isOpening .curly ts)
    || ["=", "+", "/", "%", "^", ">", "<=", "!=", "-=", "*=", "&=", "|=", "<<="].any (isMark · ts)
    || isWord "as" ts

/-- The operators that bind an operand more strongly than its own, so many at most. -/
def operandUpTo (parse : Recogniser) (withStruct : Bool) (precedence : Nat) :
    Nat → Shape → Tokens → Option Tokens
  | 0, _, _ => none
  | n + 1, s, ts =>
    let next := nextPrecedence ts
    if precedence < next || (next = precedence && precedence = Precedence.assign) then
      (parse (.continuation s withStruct next) ts).bind fun (s, rest) =>
        if rest.length = ts.length then some rest
        else operandUpTo parse withStruct precedence n s rest
    else some ts

/-- The operand after an operator of that precedence. -/
def operand (parse : Recogniser) (withStruct : Bool) (precedence : Nat) : Rule := fun ts =>
  (parse (.unary withStruct) ts).bind fun (s, ts) =>
    operandUpTo parse withStruct precedence (ts.length + 1) s ts

/-- A range from its marks on. -/
def rangeAfter (parse : Recogniser) (withStruct : Bool) (ts : Tokens) : Option (Shape × Tokens) :=
  (rangeMarks ts).bind fun (closed, ts) =>
    if !closed && lacksEnd withStruct ts then some (.range, ts)
    else shaped .range (operand parse withStruct Precedence.range) ts

/-- A `break`. A labeled loop or block as its value needs brackets. -/
def breakExpression (parse : Recogniser) (withStruct : Bool) : Rule :=
  word "break" >=> fun ts =>
    if isLifetime ts && isMark ":" (ts.drop 2) then none
    else
      let ts := if isLifetime ts then ts.drop 2 else ts
      if !withStruct && isOpening .curly ts then some ts else optionalValue parse withStruct ts

/-- A pattern tested in a condition. -/
def letExpression (parse : Recogniser) (withStruct : Bool) : Rule :=
  word "let" >=> alternatives parse >=> mark "=" >=> fun ts =>
    (parse (.unary withStruct) ts).bind fun (s, ts) =>
      parse.rule (.continuation s withStruct Precedence.compare) ts

/-- A closure is next. -/
def startsClosure (ts : Tokens) : Bool :=
  isMark "|" ts || isWord "move" ts
    || (isWord "for" ts && startsGenerics ts.tail)
    || (isWord "const" ts && !second (isOpening .curly) ts)
    || isWord "static" ts
    || (isWord "async" ts && (second (isMark "|") ts || second (isWord "move") ts))

/-- An asynchronous block is next. -/
def startsAsync (ts : Tokens) : Bool :=
  isWord "async" ts
    && (second (isOpening .curly) ts || (second (isWord "move") ts && third (isOpening .curly) ts))

/-- An expression that operators do not take apart. -/
def atom (parse : Recogniser) (withStruct : Bool) (ts : Tokens) : Option (Shape × Tokens) :=
  if isLiteral ts then plain literal ts
  else if startsAsync ts then plain (word "async" >=> optionalWord "move" >=> braces parse) ts
  else if startsClosure ts then plain (closure parse withStruct) ts
  else if startsPath ts
      || (isWord "try" ts && (second (isMark "!") ts || second (isMark "::") ts)) then
    pathExpression parse withStruct ts
  else if isOpening .round ts then plain (roundExpression parse) ts
  else if isWord "break" ts then plain (breakExpression parse withStruct) ts
  else if isWord "continue" ts then plain (word "continue" >=> when isLifetime lifetime) ts
  else if isWord "return" ts then plain (word "return" >=> optionalValue parse withStruct) ts
  else if isWord "become" ts then plain (word "become" >=> parse.rule (.expression true)) ts
  else if isWord "yield" ts then plain (word "yield" >=> optionalValue parse true) ts
  else if isOpening .square ts then plain (squareExpression parse) ts
  else if isWord "let" ts then plain (letExpression parse withStruct) ts
  else if isMark ".." ts then rangeAfter parse withStruct ts
  else if isWord "_" ts then plain (word "_") ts
  else match blockLike? parse ts with
    | some rule => shaped .block rule ts
    | none => none

/-! ### What follows a value -/

/-- The parts of a number that stands for several indices, and whether a member follows. -/
def indices : Tokens → Option (Bool × Tokens)
  | .literal (.floating isIndices endsInPoint) :: ts =>
    if isIndices then some (endsInPoint, ts) else none
  | ts => some (true, ts)

/-- A number with a point is next. -/
def isFloating : Tokens → Bool
  | .literal (.floating _ _) :: _ => true
  | _ => false

/-- The arguments of a call. -/
def callArguments (parse : Recogniser) : Rule :=
  within .round (listed (parse.rule (.expression true)))

/-- A member after a point: a name with the call of a method, an index, or `await`. -/
def member (parse : Recogniser) : Rule := fun ts =>
  if isFloating ts && (indices ts).isNone then none
  else match indices ts with
    | some (false, ts) => some ts
    | none => none
    | some (true, ts) =>
      if isWord "await" ts then some ts.tail
      else (one isMember ts).bind fun rest =>
        if isName ts then
          if isMark "::" rest then
            (mark "::" >=> parse.rule .arguments >=> callArguments parse) rest
          else if isOpening .round rest then callArguments parse rest
          else some rest
        else some rest

/-- Calls, members, indices and question marks after a value, so many at most. -/
def trailersUpTo (parse : Recogniser) : Nat → Shape → Tokens → Option (Shape × Tokens)
  | 0, s, ts => some (s, ts)
  | n + 1, s, ts =>
    if isOpening .round ts then
      (callArguments parse ts).bind fun ts => trailersUpTo parse n .other ts
    else if isMark "." ts && !isMark ".." ts && s ≠ .range then
      (member parse ts.tail).bind fun ts => trailersUpTo parse n .other ts
    else if isOpening .square ts then
      (within .square (parse.rule (.expression true)) ts).bind fun ts =>
        trailersUpTo parse n .other ts
    else if isMark "?" ts && s ≠ .range then trailersUpTo parse n .other ts.tail
    else some (s, ts)

/-- Calls, members, indices and question marks after a value. -/
def trailers (parse : Recogniser) (s : Shape) (ts : Tokens) : Option (Shape × Tokens) :=
  trailersUpTo parse ts.length s ts

/-- A value with the operators before it and what follows it. -/
def unary (parse : Recogniser) (withStruct : Bool) (ts : Tokens) : Option (Shape × Tokens) :=
  (outerAttributes parse ts).bind fun ts =>
    if isMark "&" ts then
      let rest := ts.tail
      if isWord "raw" rest && (second (isWord "mut") rest || second (isWord "const") rest) then
        plain (parse.rule (.unary withStruct)) (rest.drop 2)
      else plain (optionalWord "mut" >=> parse.rule (.unary withStruct)) rest
    else if isMark "*" ts || isMark "!" ts || isMark "-" ts then
      plain (parse.rule (.unary withStruct)) ts.tail
    else (atom parse withStruct ts).bind fun (s, ts) => trailers parse s ts

/-! ### Operators -/

/-- Nothing that follows a value may follow a cast. -/
def endsCast (ts : Tokens) : Bool :=
  !((isMark "." ts && !isMark ".." ts) || isMark "?" ts || isOpening .square ts
    || isOpening .round ts)

/-- The operators after an expression that bind at least as strongly as the base. -/
def continuation (parse : Recogniser) (lhs : Shape) (withStruct : Bool) (base : Nat)
    (ts : Tokens) : Option (Shape × Tokens) :=
  if lhs = .range then some (lhs, ts)
  else match operator? ts with
    | some (precedence, rest) =>
      if precedence < base then some (lhs, ts)
      else if precedence = Precedence.compare && lhs = .comparison then none
      else
        let s : Shape := if precedence = Precedence.compare then .comparison else .other
        (operand parse withStruct precedence rest).bind fun rest =>
          parse (.continuation s withStruct base) rest
    | none =>
      if base ≤ Precedence.assign && isAssignment ts then
        (operand parse withStruct Precedence.assign ts.tail).bind fun rest =>
          parse (.continuation .other withStruct base) rest
      else if base ≤ Precedence.range && isMark ".." ts then rangeAfter parse withStruct ts
      else if base ≤ Precedence.cast && isWord "as" ts then
        (parse.rule (.type false) ts.tail).bind fun rest =>
          if endsCast rest then parse (.continuation .other withStruct base) rest else none
      else some (lhs, ts)

/-- An expression. -/
def expression (parse : Recogniser) (withStruct : Bool) (ts : Tokens) :
    Option (Shape × Tokens) :=
  (parse (.unary withStruct) ts).bind fun (s, ts) =>
    parse (.continuation s withStruct Precedence.jump) ts

/-- An expression where a block ends it, unless a member or question mark follows. -/
def statementExpression (parse : Recogniser) (ts : Tokens) : Option (Shape × Tokens) :=
  (outerAttributes parse ts).bind fun ts =>
    match blockLike? parse ts with
    | some rule =>
      (rule ts).bind fun ts =>
        if (isMark "." ts && !isMark ".." ts) || isMark "?" ts then
          (trailers parse .block ts).bind fun (s, ts) =>
            parse (.continuation s true Precedence.jump) ts
        else some (.block, ts)
    | none =>
      (parse (.unary true) ts).bind fun (s, ts) =>
        if s = .block then some (s, ts) else parse (.continuation s true Precedence.jump) ts

/-! ### Statements -/

/-- The last token before what follows is a closing curly bracket. -/
def endsInCurly (ts rest : Tokens) : Bool :=
  (ts.take (ts.length - rest.length)).getLast? = some (.closing .curly)

/-- A binding, from `let` to its semicolon. -/
def binding (parse : Recogniser) : Rule :=
  word "let" >=> parse.rule .pattern >=> when (isMark ":") (mark ":" >=> parse.rule (.type true))
    >=> when (isMark "=") (mark "=" >=> fun ts =>
      (parse.rule (.expression true) ts).bind fun rest =>
        if isWord "else" rest && !endsInCurly ts rest then (word "else" >=> braces parse) rest
        else some rest)
    >=> mark ";"

/-- The statement is an item, given what follows its attributes. -/
def startsItemStatement (ts : Tokens) : Bool :=
  isOneOf ["pub", "extern", "use", "fn", "mod", "type", "struct", "enum", "trait", "impl",
      "macro"] ts
    || (isWord "crate" ts && !second (isMark "::") ts)
    || (isWord "static" ts
      && (second (isWord "mut") ts
        || (second isName ts
          && !(second (isWord "async") ts
            && (third (isWord "move") ts || third (isMark "|") ts)))))
    || (isWord "const" ts
      && !(second (isOpening .curly) ts || second (isWord "static") ts
        || (second (isWord "async") ts
          && !(third (isWord "unsafe") ts || third (isWord "extern") ts || third (isWord "fn") ts))
        || second (isWord "move") ts || second (isMark "|") ts))
    || (isWord "unsafe" ts && !second (isOpening .curly) ts)
    || (isWord "async" ts
      && (second (isWord "unsafe") ts || second (isWord "extern") ts || second (isWord "fn") ts))
    || (isWord "union" ts && second isName ts)
    || (isWord "auto" ts && second (isWord "trait") ts)
    || (isWord "default" ts && (second (isWord "unsafe") ts || second (isWord "impl") ts))

/-- How a statement that begins with the path of a macro goes on. -/
inductive MacroStatement where
  | none
  | definition
  | block (rest : Tokens)

/-- A macro call that is a statement by itself, or one that defines a name. -/
def macroStatement (ts : Tokens) : MacroStatement :=
  match modPath ts with
  | some rest =>
    if isMark "!" rest then
      if second isName rest || second (isWord "try") rest then .definition
      else if second (isOpening .curly) rest
          && !((third (isMark ".") rest && !third (isMark "..") rest)
            || third (isMark "?") rest) then .block rest.tail
      else .none
    else .none
  | none => .none

/-- A statement; the shape says whether a semicolon must follow: only after `other`. -/
def statement (parse : Recogniser) (ts : Tokens) : Option (Shape × Tokens) :=
  (outerAttributes parse ts).bind fun rest =>
    match macroStatement rest with
    | .block rest => shaped .block (group >=> optionalMark ";") rest
    | .definition => shaped .block (parse.rule .item) ts
    | .none =>
      if isWord "let" rest then shaped .block (binding parse) rest
      else if startsItemStatement rest then shaped .block (parse.rule .item) ts
      else
        (parse .statementExpression rest).bind fun (s, rest) =>
          if isMark ";" rest then some (.block, rest.tail)
          else some (if s = .block || s = .curlyCall then .block else .other, rest)

/-- The statements of a block up to its end. -/
def statementsUpTo (parse : Recogniser) : Nat → Rule
  | 0, _ => none
  | n + 1, ts =>
    if isMark ";" ts then statementsUpTo parse n ts.tail
    else if atEnd ts then some ts
    else (parse .statement ts).bind fun (s, ts) =>
      if atEnd ts then some ts
      else if s = .other then none
      else statementsUpTo parse n ts

/-- The statements of a block. -/
def statements (parse : Recogniser) : Rule :=
  fun ts => statementsUpTo parse (ts.length + 1) ts

end Grammar

end Fragment

end NotebookEngine
