import NotebookEngine.Fragment.Token

/-!
# The grammar of a compiled file: foundations

The grammar recognises phrases: a rule takes the tokens before it and gives the tokens after the
phrase, or fails. Rules look ahead with the tests of this module and are put together with the
combinators of this module. Rules that may contain themselves go through a `Goal`: a rule is given
the recogniser of goals as an argument, and the knot is tied in one place.
-/

namespace NotebookEngine

namespace Fragment

namespace Grammar

/-- The tokens still to be read. -/
abbrev Tokens := List Token

/-- A recogniser that keeps nothing but what follows. -/
abbrev Rule := Tokens → Option Tokens

/-- What was read, as far as the phrase around it asks. -/
inductive Shape where
  /-- Nothing that is asked about. -/
  | other
  /-- A range, which nothing may continue. -/
  | range
  /-- A comparison, which no comparison may continue. -/
  | comparison
  /-- An expression that is a statement without semicolon, as a block or a loop is. -/
  | block
  /-- A macro call with curly brackets. -/
  | curlyCall
  /-- A type that is one name, perhaps with arguments in angle brackets. -/
  | typeName
  /-- A type that is any other path. -/
  | typePath
  /-- A type in round brackets. -/
  | typeGroup
  /-- A type that is a single bound. -/
  | typeBound
  /-- A bound that is a trait. -/
  | trait
  /-- A pattern that is a range open at one end. -/
  | openRange
  /-- The pattern for the rest. -/
  | rest
  /-- A function of that name. -/
  | function (name : Text)
deriving DecidableEq, Repr

/-- Phrases that may contain themselves. An expression knows whether a curly bracket may begin a
value in it, a type whether it may be a sum. -/
inductive Goal where
  | expression (withStruct : Bool)
  | unary (withStruct : Bool)
  | continuation (lhs : Shape) (withStruct : Bool) (base : Nat)
  | statementExpression
  | statement
  | statements
  | type (withSum : Bool)
  | bound (withCapture : Bool)
  | arguments
  | pattern
  | useTree
  | item
deriving DecidableEq, Repr

/-- A recogniser of goals. -/
abbrev Recogniser := Goal → Tokens → Option (Shape × Tokens)

/-- A goal as a rule. -/
def Recogniser.rule (parse : Recogniser) (g : Goal) : Rule :=
  fun ts => (parse g ts).map Prod.snd

/-! ### Looking ahead -/

/-- Nothing is left within these brackets. -/
def atEnd : Tokens → Bool
  | [] => true
  | .closing _ :: _ => true
  | _ => false

/-- The next token is this keyword. -/
def isWord (w : String) : Tokens → Bool
  | .word false name :: _ => name = w.toList
  | _ => false

/-- One of these keywords is next. -/
def isOneOf (ws : List String) (ts : Tokens) : Bool :=
  ws.any (isWord · ts)

/-- The words that are no names. -/
def reserved : List String :=
  ["_", "abstract", "as", "async", "await", "become", "box", "break", "const", "continue", "crate",
    "do", "dyn", "else", "enum", "extern", "false", "final", "fn", "for", "if", "impl", "in", "let",
    "loop", "macro", "match", "mod", "move", "mut", "override", "priv", "pub", "ref", "return",
    "Self", "self", "static", "struct", "super", "trait", "true", "try", "type", "typeof", "unsafe",
    "unsized", "use", "virtual", "where", "while", "yield"]

/-- The next token is a word. -/
def isAnyWord : Tokens → Bool
  | .word _ _ :: _ => true
  | _ => false

/-- The next token is a name. -/
def isName (ts : Tokens) : Bool :=
  isAnyWord ts && !isOneOf reserved ts

/-- The next tokens are these marks, joint but for the last, which may be joint to more. -/
def isMark (marks : String) (ts : Tokens) : Bool :=
  go marks.toList ts
where
  go : Text → Tokens → Bool
    | [], _ => true
    | [c], .mark d _ :: _ => c = d
    | c :: cs, .mark d joint :: ts => c = d && joint && go cs ts
    | _ :: _, _ => false

/-- A lifetime is next. -/
def isLifetime : Tokens → Bool
  | .mark '\'' true :: .word _ _ :: _ => true
  | _ => false

/-- An opening bracket of this kind is next. -/
def isOpening (b : Bracket) : Tokens → Bool
  | .opening c :: _ => b = c
  | _ => false

/-- A literal is next, perhaps with a minus sign. -/
def isLiteral : Tokens → Bool
  | .literal _ :: _ => true
  | .mark '-' _ :: .literal (.integer _) :: _ => true
  | .mark '-' _ :: .literal (.floating _ _) :: _ => true
  | ts => isWord "true" ts || isWord "false" ts

/-- The literal of a string is next. -/
def isString : Tokens → Bool
  | .literal .string :: _ => true
  | _ => false

/-- What follows the closing bracket of `depth` opened ones. -/
def afterClosing : (depth : Nat) → Tokens → Tokens
  | _, [] => []
  | depth, .opening _ :: ts => afterClosing (depth + 1) ts
  | depth, .closing _ :: ts => if depth ≤ 1 then ts else afterClosing (depth - 1) ts
  | depth, _ :: ts => afterClosing depth ts

/-- What follows the next token or bracketed group; a lifetime counts as one. -/
def skip : Tokens → Tokens
  | [] => []
  | .closing _ :: _ => []
  | .opening _ :: ts => afterClosing 1 ts
  | .mark '\'' true :: .word _ _ :: ts => ts
  | _ :: ts => ts

/-- The test holds after one token or group. -/
def second (test : Tokens → Bool) (ts : Tokens) : Bool :=
  test (skip ts)

/-- The test holds after two tokens or groups. -/
def third (test : Tokens → Bool) (ts : Tokens) : Bool :=
  test (skip (skip ts))

/-! ### Rules -/

/-- One token that the test accepts. -/
def one (test : Tokens → Bool) : Rule :=
  fun ts => if test ts then some ts.tail else none

/-- A keyword. -/
def word (w : String) : Rule :=
  one (isWord w)

/-- A name. -/
def name : Rule :=
  one isName

/-- A name or keyword. -/
def anyWord : Rule :=
  one isAnyWord

/-- These marks. -/
def mark (marks : String) : Rule :=
  fun ts => if isMark marks ts then some (ts.drop marks.toList.length) else none

/-- A lifetime. -/
def lifetime : Rule :=
  fun ts => if isLifetime ts then some (ts.drop 2) else none

/-- A literal. -/
def literal : Rule :=
  fun ts => if isLiteral ts then some (if isMark "-" ts then ts.drop 2 else ts.tail) else none

/-- A bracketed group of any tokens. -/
def group : Rule
  | .opening _ :: ts => some (afterClosing 1 ts)
  | _ => none

/-- A bracketed group that holds what the rule reads. -/
def within (b : Bracket) (rule : Rule) : Rule
  | .opening c :: ts =>
    if b = c then
      match rule ts with
      | some (.closing _ :: ts) => some ts
      | _ => none
    else none
  | _ => none

/-- The rule, if the test holds. -/
def when (test : Tokens → Bool) (rule : Rule) : Rule :=
  fun ts => if test ts then rule ts else some ts

/-- The first rule if the test holds, else the second. -/
def either (test : Tokens → Bool) (rule other : Rule) : Rule :=
  fun ts => if test ts then rule ts else other ts

/-- A keyword that may be missing. -/
def optionalWord (w : String) : Rule :=
  when (isWord w) (word w)

/-- Marks that may be missing. -/
def optionalMark (marks : String) : Rule :=
  when (isMark marks) (mark marks)

/-- The rule as long as the test holds, so many times at most. -/
def repeatUpTo (test : Tokens → Bool) (rule : Rule) : Nat → Rule
  | 0, ts => if test ts then none else some ts
  | n + 1, ts => if test ts then rule ts >>= repeatUpTo test rule n else some ts

/-- The rule as long as the test holds. -/
def repeated (test : Tokens → Bool) (rule : Rule) : Rule :=
  fun ts => repeatUpTo test rule ts.length ts

/-- Phrases with a separator between each two and perhaps after the last, up to where the test
holds. -/
def separatedUpTo (stop : Tokens → Bool) (separator item : Rule) : Nat → Rule
  | 0, ts => if stop ts then some ts else none
  | n + 1, ts =>
    if stop ts then some ts
    else item ts >>= fun ts =>
      if stop ts then some ts
      else separator ts >>= separatedUpTo stop separator item n

/-- Phrases with a separator between each two and perhaps after the last, up to where the test
holds. -/
def separated (stop : Tokens → Bool) (separator item : Rule) : Rule :=
  fun ts => separatedUpTo stop separator item (ts.length + 1) ts

/-- Phrases with commas up to the end of the group. -/
def listed (item : Rule) : Rule :=
  separated atEnd (mark ",") item

/-- Phrases joined by plus signs; the sum ends where the test holds or no plus sign follows. -/
def summedUpTo (stop : Tokens → Bool) (item : Rule) : Nat → Rule
  | 0, ts => if stop ts then some ts else none
  | n + 1, ts =>
    if stop ts then some ts
    else item ts >>= fun ts =>
      if isMark "+" ts then mark "+" ts >>= summedUpTo stop item n else some ts

/-- Phrases joined by plus signs; the sum ends where the test holds or no plus sign follows. -/
def summed (stop : Tokens → Bool) (item : Rule) : Rule :=
  fun ts => summedUpTo stop item (ts.length + 1) ts

/-- The rule, with its phrase called so. -/
def shaped (s : Shape) (rule : Rule) : Tokens → Option (Shape × Tokens) :=
  fun ts => (rule ts).map fun ts => (s, ts)

/-- The rule, of which nothing is asked. -/
def plain (rule : Rule) : Tokens → Option (Shape × Tokens) :=
  shaped .other rule

end Grammar

end Fragment

end NotebookEngine
