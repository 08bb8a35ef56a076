import NotebookEngine.Fragment.Grammar.Expressions

/-!
# The grammar of items

Functions, constants, types, modules, traits, implementations and macros, and the file that holds
them. `file?` ties the knot of the grammar and gives the names of the functions at the top level.
-/

namespace NotebookEngine

namespace Fragment

namespace Grammar

/-! ### Functions -/

/-- What may precede `fn`; `safe` is allowed among foreign items. -/
def qualifiers (withSafe : Bool) : Rule :=
  optionalWord "const" >=> optionalWord "async"
    >=> either (fun ts => withSafe && isWord "safe" ts) (word "safe") (optionalWord "unsafe")
    >=> when (isWord "extern") convention

/-- The signature of a function is next. -/
def startsSignature (withSafe : Bool) (ts : Tokens) : Bool :=
  match qualifiers withSafe ts with
  | some ts => isWord "fn" ts
  | none => false

/-- The receiver of a method. -/
def receiver (parse : Recogniser) : Rule := fun ts =>
  if isMark "&" ts then
    (mark "&" >=> when isLifetime lifetime >=> optionalWord "mut" >=> word "self") ts
  else
    (optionalWord "mut" >=> word "self"
      >=> when (isMark ":") (mark ":" >=> parse.rule (.type true))) ts

/-- The parameters of a function, so many at most; only the first may be a receiver. -/
def parameters (parse : Recogniser) : Nat → (isFirst : Bool) → Rule
  | 0, _, _ => none
  | n + 1, isFirst, ts =>
    if atEnd ts then some ts
    else outerAttributes parse ts >>= fun ts =>
      let next : Rule := fun ts =>
        if atEnd ts then some ts else mark "," ts >>= parameters parse n false
      let last : Rule := fun ts => if atEnd ts then some ts else mark "," ts
      if isMark "..." ts then last (ts.drop 3)
      else match receiver parse ts with
        | some ts => if isFirst then next ts else none
        | none =>
          if isName ts && second (isMark "<") ts then parse.rule (.type true) ts >>= next
          else (parse.rule .pattern >=> mark ":") ts >>= fun ts =>
            if isMark "..." ts then last (ts.drop 3) else parse.rule (.type true) ts >>= next

/-- The name of the word that is next; a raw word keeps its mark. -/
def nameOf : Tokens → Text
  | .word false n :: _ => n
  | .word true n :: _ => 'r' :: '#' :: n
  | _ => []

/-- The signature of a function, with its name. -/
def signature (parse : Recogniser) (withSafe : Bool) (ts : Tokens) : Option (Text × Tokens) :=
  (qualifiers withSafe >=> word "fn") ts |>.bind fun ts =>
    ((name >=> generics parse
      >=> within .round (fun ts => parameters parse (ts.length + 1) true ts)
      >=> output parse true >=> whereClause parse) ts).map fun rest => (nameOf ts, rest)

/-- A signature as a rule. -/
def signatureRule (parse : Recogniser) (withSafe : Bool) : Rule :=
  fun ts => (signature parse withSafe ts).map Prod.snd

/-- The body of a function, or a semicolon instead of it. -/
def bodyOrSemicolon (parse : Recogniser) : Rule :=
  either (isMark ";") (mark ";") (body parse)

/-! ### Types -/

/-- A macro call as an item: one with curly brackets needs no semicolon. -/
def macroItem (withName : Bool) : Rule :=
  modPath >=> mark "!"
    >=> when (fun ts => withName && (isName ts || isWord "try" ts)) anyWord
    >=> fun ts => (group ts).bind fun rest =>
      if isOpening .curly ts then some rest else mark ";" rest

/-- What may begin a macro call as an item. -/
def startsMacro (ts : Tokens) : Bool :=
  isName ts || isOneOf ["self", "super", "crate"] ts || isMark "::" ts

/-- Where the `where` clause of a type definition stands. -/
inductive WherePlace where
  | before
  | after
deriving DecidableEq, Repr

/-- What ends the bounds of a type definition. -/
def endsDefinitionBounds (ts : Tokens) : Bool :=
  isWord "where" ts || isMark "=" ts || isMark ";" ts

/-- The definition or declaration of a type, after its visibility. -/
def typeDefinition (parse : Recogniser) (place : WherePlace) : Rule :=
  word "type" >=> name >=> generics parse
    >=> when (isMark ":") (mark ":"
      >=> separated endsDefinitionBounds (mark "+") (parse.rule (.bound false)))
    >=> when (fun _ => place = .before) (whereClause parse)
    >=> when (isMark "=") (mark "=" >=> parse.rule (.type true))
    >=> when (fun _ => place = .after) (whereClause parse)
    >=> mark ";"

/-- A field with a name. -/
def namedField (parse : Recogniser) : Rule :=
  outerAttributes parse >=> visibility >=> fun ts =>
    (either (isWord "_") (word "_") name >=> mark ":") ts |>.bind fun rest =>
      parse.rule (.type true) rest

/-- Fields with names. -/
def namedFields (parse : Recogniser) : Rule :=
  within .curly (listed (namedField parse))

/-- Fields without names. -/
def unnamedFields (parse : Recogniser) : Rule :=
  within .round (listed (outerAttributes parse >=> visibility >=> parse.rule (.type true)))

/-- A structure, after its visibility. -/
def structureItem (parse : Recogniser) : Rule :=
  word "struct" >=> name >=> generics parse >=> fun ts =>
    (whereClause parse ts).bind fun rest =>
      if !isWord "where" ts && isOpening .round ts then
        (unnamedFields parse >=> whereClause parse >=> mark ";") ts
      else either (isMark ";") (mark ";") (namedFields parse) rest

/-- One variant of an enumeration. -/
def variant (parse : Recogniser) : Rule :=
  outerAttributes parse >=> visibility >=> name
    >=> when (isOpening .curly) (namedFields parse)
    >=> when (isOpening .round) (unnamedFields parse)
    >=> when (isMark "=") (mark "=" >=> parse.rule (.expression true))

/-- An enumeration, after its visibility. -/
def enumeration (parse : Recogniser) : Rule :=
  word "enum" >=> name >=> generics parse >=> whereClause parse
    >=> within .curly (listed (variant parse))

/-- A union, after its visibility. -/
def union (parse : Recogniser) : Rule :=
  word "union" >=> name >=> generics parse >=> whereClause parse >=> namedFields parse

/-! ### Members of traits, implementations and foreign blocks -/

/-- A constant of a module, trait or implementation, whose value may be missing. -/
def constant (parse : Recogniser) : Rule :=
  word "const" >=> one (fun ts => isName ts || isWord "_" ts) >=> generics parse >=> mark ":"
    >=> parse.rule (.type true)
    >=> when (isMark "=") (mark "=" >=> parse.rule (.expression true))
    >=> whereClause parse >=> mark ";"

/-- A member of a trait. -/
def traitMember (parse : Recogniser) : Rule := fun ts =>
  (outerAttributes parse ts).bind fun afterAttributes =>
    (visibility afterAttributes).bind fun afterVisibility =>
      let rest :=
        if isWord "default" afterVisibility then afterVisibility.tail else afterVisibility
      let bare := rest.length = afterAttributes.length
      if startsSignature false rest then
        (signatureRule parse false >=> bodyOrSemicolon parse) rest
      else if isWord "const" rest then constant parse rest
      else if isWord "type" rest then typeDefinition parse .after afterVisibility
      else if bare && startsMacro rest then macroItem false rest
      else none

/-- A member of an implementation. -/
def implMember (parse : Recogniser) : Rule := fun ts =>
  (outerAttributes parse ts).bind fun afterAttributes =>
    (visibility afterAttributes).bind fun afterVisibility =>
      let rest :=
        if isWord "default" afterVisibility && !second (isMark "!") afterVisibility then
          afterVisibility.tail
        else afterVisibility
      let bare := rest.length = afterAttributes.length
      if startsSignature false rest then
        (signatureRule parse false >=> bodyOrSemicolon parse) rest
      else if isWord "const" rest then constant parse rest
      else if isWord "type" rest then typeDefinition parse .after rest
      else if bare && startsMacro rest then macroItem false rest
      else none

/-- A member of a foreign block. -/
def foreignMember (parse : Recogniser) : Rule := fun ts =>
  (outerAttributes parse ts).bind fun afterAttributes =>
    (visibility afterAttributes).bind fun rest =>
      let bare := rest.length = afterAttributes.length
      if startsSignature true rest then
        (signatureRule parse true >=> bodyOrSemicolon parse) rest
      else if isWord "static" rest
          || (isOneOf ["unsafe", "safe"] rest && second (isWord "static") rest) then
        (when (isOneOf ["unsafe", "safe"]) anyWord >=> word "static" >=> optionalWord "mut" >=> name
          >=> mark ":" >=> parse.rule (.type true)
          >=> when (isMark "=") (mark "=" >=> parse.rule (.expression true)) >=> mark ";") rest
      else if isWord "type" rest then typeDefinition parse .before rest
      else if bare && startsMacro rest then macroItem false rest
      else none

/-- Members within curly brackets. -/
def members (parse : Recogniser) (member : Rule) : Rule :=
  within .curly (innerAttributes parse >=> repeated (fun ts => !atEnd ts) member)

/-! ### Traits and implementations -/

/-- What ends the bounds of a trait. -/
def endsTraitBounds (ts : Tokens) : Bool :=
  isWord "where" ts || isOpening .curly ts

/-- What ends the bounds of a trait alias. -/
def endsAliasBounds (ts : Tokens) : Bool :=
  isWord "where" ts || isMark ";" ts

/-- A trait from its bounds on. -/
def traitAfterName (parse : Recogniser) : Rule :=
  when (isMark ":") (mark ":"
      >=> separated endsTraitBounds (mark "+") (parse.rule (.bound false)))
    >=> whereClause parse >=> members parse (traitMember parse)

/-- A trait after its qualifiers; one without may be an alias. -/
def trait (parse : Recogniser) (isBare : Bool) : Rule :=
  word "trait" >=> name >=> generics parse >=> fun ts =>
    if isBare && isMark "=" ts then
      (mark "=" >=> separated endsAliasBounds (mark "+") (parse.rule (.bound false))
        >=> whereClause parse >=> mark ";") ts
    else traitAfterName parse ts

/-- An implementation, after its visibility. -/
def implementation (parse : Recogniser) : Rule :=
  optionalWord "default" >=> optionalWord "unsafe" >=> word "impl"
    >=> when startsGenerics (generics parse)
    >=> when (fun ts => isWord "const" ts || (isMark "?" ts && second (isWord "const") ts))
      (optionalMark "?" >=> word "const")
    >=> when (fun ts => isMark "!" ts && !second (isOpening .curly) ts) (mark "!")
    >=> parse.rule (.type true)
    >=> when (isWord "for") (word "for" >=> parse.rule (.type true))
    >=> whereClause parse >=> members parse (implMember parse)

/-! ### Uses and modules -/

/-- What a `use` names, below its first separator. -/
def useTree (parse : Recogniser) : Rule := fun ts =>
  if isName ts || isOneOf ["self", "super", "crate", "try"] ts then
    let rest := ts.tail
    if isMark "::" rest then parse.rule .useTree (rest.drop 2)
    else if isWord "as" rest then one (fun ts => isName ts || isWord "_" ts) rest.tail
    else some rest
  else if isMark "*" ts then mark "*" ts
  else within .curly (listed (parse.rule .useTree)) ts

/-- The trees of a `use` in curly brackets at its front, each perhaps absolute, so deep at most. -/
def rootedTree (parse : Recogniser) : Nat → Rule
  | 0, ts => parse.rule .useTree ts
  | n + 1, ts =>
    if isOpening .curly ts then
      within .curly (listed fun ts =>
        if isMark "::" ts then parse.rule .useTree (ts.drop 2) else rootedTree parse n ts) ts
    else parse.rule .useTree ts

/-- A `use`, after its visibility. -/
def use (parse : Recogniser) : Rule :=
  word "use" >=> (fun ts =>
    if isMark "::" ts then parse.rule .useTree (ts.drop 2) else rootedTree parse ts.length ts)
    >=> mark ";"

/-- A module, after its visibility. -/
def moduleItem (parse : Recogniser) : Rule :=
  optionalWord "unsafe" >=> word "mod" >=> one (fun ts => isName ts || isWord "try" ts)
    >=> either (isMark ";") (mark ";") (members parse (parse.rule .item))

/-- A block of foreign items. -/
def foreignBlock (parse : Recogniser) : Rule :=
  optionalWord "unsafe" >=> convention >=> members parse (foreignMember parse)

/-- The naming of an external library, after its visibility. -/
def externalLibrary : Rule :=
  word "extern" >=> word "crate" >=> one (fun ts => isName ts || isWord "self" ts)
    >=> when (isWord "as") (word "as" >=> one fun ts => isName ts || isWord "_" ts)
    >=> mark ";"

/-- A static variable, after its visibility. -/
def static (parse : Recogniser) : Rule :=
  word "static" >=> optionalWord "mut" >=> name
    >=> either (isMark "=") (mark "=" >=> parse.rule (.expression true))
      (mark ":" >=> parse.rule (.type true)
        >=> when (isMark "=") (mark "=" >=> parse.rule (.expression true)))
    >=> mark ";"

/-- The definition of a declarative macro. -/
def macroDefinition : Rule :=
  word "macro" >=> name >=> when (isOpening .round) group
    >=> fun ts => if isOpening .curly ts then group ts else none

/-! ### Items -/

/-- A function as an item, with its name; one without body is none that may be called. -/
def functionItem (parse : Recogniser) (ts : Tokens) : Option (Shape × Tokens) :=
  (signature parse false ts).bind fun (name, ts) =>
    if isMark ";" ts then some (.other, ts.tail) else shaped (.function name) (body parse) ts

/-- An item that begins with `extern` and is no function. -/
def externItem (parse : Recogniser) (bare : Bool) (ts : Tokens) : Option Tokens :=
  if isWord "crate" ts.tail then externalLibrary ts
  else if bare then foreignBlock parse ts
  else none

/-- An item that begins with `unsafe` and is no function. -/
def unsafeItem (parse : Recogniser) (bare : Bool) (ts : Tokens) : Option Tokens :=
  let rest := ts.tail
  if isWord "trait" rest then trait parse false rest
  else if isWord "auto" rest && second (isWord "trait") rest then trait parse false rest.tail
  else if isWord "impl" rest then implementation parse ts
  else if isWord "extern" rest then if bare then foreignBlock parse ts else none
  else if isWord "mod" rest then moduleItem parse ts
  else none

/-- An item other than a function, after its visibility; `bare` when it has none. -/
def otherItem (parse : Recogniser) (bare : Bool) : Rule := fun ts =>
  if isWord "extern" ts then externItem parse bare ts
  else if isWord "use" ts then use parse ts
  else if isWord "static" ts then static parse ts
  else if isWord "const" ts then constant parse ts
  else if isWord "unsafe" ts then unsafeItem parse bare ts
  else if isWord "mod" ts then moduleItem parse ts
  else if isWord "type" ts then typeDefinition parse .before ts
  else if isWord "struct" ts then structureItem parse ts
  else if isWord "enum" ts then enumeration parse ts
  else if isWord "union" ts && second isName ts then union parse ts
  else if isWord "trait" ts then trait parse true ts
  else if isWord "auto" ts && second (isWord "trait") ts then trait parse false ts.tail
  else if isWord "impl" ts || (isWord "default" ts && !second (isMark "!") ts) then
    implementation parse ts
  else if isWord "macro" ts then macroDefinition ts
  else if bare && startsMacro ts then macroItem true ts
  else none

/-- An item. -/
def item (parse : Recogniser) (ts : Tokens) : Option (Shape × Tokens) :=
  (outerAttributes parse ts).bind fun afterAttributes =>
    (visibility afterAttributes).bind fun rest =>
      if startsSignature false rest then functionItem parse rest
      else plain (otherItem parse (rest.length = afterAttributes.length)) rest

/-! ### The whole grammar -/

/-- The phrases of a goal, given the recogniser of the goals in it. -/
def phrase (parse : Recogniser) : Goal → Tokens → Option (Shape × Tokens)
  | .expression withStruct => expression parse withStruct
  | .unary withStruct => unary parse withStruct
  | .continuation lhs withStruct base => continuation parse lhs withStruct base
  | .statementExpression => statementExpression parse
  | .statement => statement parse
  | .statements => plain (statements parse)
  | .type withSum => type parse withSum
  | .bound withCapture => bound parse withCapture
  | .arguments => plain (arguments parse)
  | .pattern => pattern parse
  | .useTree => plain (useTree parse)
  | .item => item parse

/-- The recogniser of goals nested so deep. -/
def recognise : (depth : Nat) → Recogniser
  | 0 => fun _ _ => none
  | depth + 1 => phrase (recognise depth)

/-- The items up to the end, so many at most, with the names of the functions among them. -/
def items (parse : Recogniser) : Nat → Tokens → Option (List Text)
  | 0, _ => none
  | _ + 1, [] => some []
  | n + 1, ts =>
    match parse .item ts with
    | some (.function name, ts) => (items parse n ts).map (name :: ·)
    | some (_, ts) => items parse n ts
    | none => none

/-- The names of the functions at the top level of a file. Between two tokens read there are fewer
than eight goals, which bounds the depth. -/
def file? (ts : Tokens) : Option (List Text) :=
  let parse := recognise (8 * (ts.length + 4))
  (innerAttributes parse ts).bind fun ts => items parse (ts.length + 1) ts

end Grammar

end Fragment

end NotebookEngine
