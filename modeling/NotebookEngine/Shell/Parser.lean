import NotebookEngine.Shell.Source

/-!
# Reading scripts

A script is read one line of commands at a time (`Source.next`), so that the commands before a fault
are carried out. The rules call one another; each is given as many steps as the source can need.
-/

namespace NotebookEngine

namespace Shell

open Host (Octets)

namespace Parser

/-- Where pieces of a word are read. -/
inductive Place where
  | word
  | doubleQuotes
  | document
  /-- After the sign in the braces of a parameter. -/
  | braces (inQuotes : Bool)
  /-- In a calculation, within so many brackets. -/
  | calculation (depth : Nat)
deriving DecidableEq, Repr

/-- Quotes have their meaning, and words are divided. -/
def Place.isBare : Place → Bool
  | .word | .braces false => true
  | _ => false

/-- The characters that a backslash quotes. -/
def Place.quotable : Place → List Char
  | .doubleQuotes => ['$', '\x60', '"', '\\']
  | .document => ['$', '\x60', '\\']
  | .braces true => ['$', '\x60', '"', '\\', '\x7d']
  | .calculation _ => ['$', '\x60', '"', '\\']
  | _ => []

/-- The value of an assignment, in which a tilde stands for the home directory at the beginning and
after a colon. -/
def withHomes : (atStart : Bool) → Word → Word
  | _, [] => []
  | atStart, .plain ['~'] :: rest =>
    let isHome := atStart && match rest with
      | [] => true
      | .plain (c :: _) :: _ => c = '/' || c = ':'
      | _ => false
    (if isHome then .home else .plain ['~']) :: withHomes false rest
  | _, .plain s :: rest => .plain s :: withHomes (s.getLast? = some ':') rest
  | _, p :: rest => p :: withHomes false rest

/-- A piece of characters as they are met in a place. -/
def Place.literal (p : Place) (s : Octets) : Piece :=
  if p.isBare then .plain s else .quoted s

/-- The text between backquotes, without the backslashes that belong to the backquotes, and what
follows it. -/
def betweenBackquotes (inQuotes : Bool) : Octets → Option (Octets × Octets)
  | [] => none
  | '\x60' :: r => some ([], r)
  | '\\' :: c :: r =>
    (betweenBackquotes inQuotes r).map fun (t, r) =>
      if c = '\x60' || c = '\\' || c = '$' || (inQuotes && c = '"') then (c :: t, r)
      else ('\\' :: c :: t, r)
  | c :: r => (betweenBackquotes inQuotes r).map fun (t, r) => (c :: t, r)

/-- The name of a parameter at the front of a text. -/
def parameterName (s : Octets) : Octets :=
  match s with
  | c :: _ =>
    if beginsName c then s.takeWhile continuesName
    else if c.isDigit then s.takeWhile Char.isDigit
    else if isSign c then [c]
    else []
  | [] => []

/-- The operator of a redirection at the front of a text, after the number before it. -/
def redirectionOperator? (s : Octets) : Option (Option Nat × String) :=
  let digits := s.takeWhile Char.isDigit
  let number := if digits.isEmpty then none else (String.ofList digits).toNat?
  let operators : List String := ["<<-", "<<", "<&", "<>", "<", ">>", ">&", ">|", ">"]
  (operators.find? fun (o : String) => Text.startsWith (s.drop digits.length) o.toList).map
    fun o => (number, o)

mutual

/-- The pieces of a word, up to where the word ends in its place. -/
def pieces : (steps : Nat) → Place → (atStart : Bool) → Parser Word
  | 0, _, _ => fail "script too long".toList
  | n + 1, place, atStart => do
    let s ← rest
    match s with
    | [] =>
      match place with
      | .word | .document => return []
      | .doubleQuotes => fail "Unterminated quoted string".toList
      | .braces _ => fail "Missing '\x7d'".toList
      | .calculation _ => fail "Missing '))'".toList
    | '\\' :: '\n' :: _ =>
      take 2
      pieces n place atStart
    | '\\' :: c :: _ =>
      if place.isBare || place.quotable.contains c then
        take 2
        return .quoted [c] :: (← pieces n place false)
      else
        take 1
        return .quoted ['\\'] :: (← pieces n place false)
    | '$' :: _ =>
      take 1
      let p ← dollar n place
      return p :: (← pieces n place false)
    | '\x60' :: r =>
      match betweenBackquotes (place = .doubleQuotes) r with
      | none => fail "EOF in backquote substitution".toList
      | some (text, after) =>
        let line := (← get).line
        takeTo after
        let saved ← get
        set { rest := text, line := line : Source }
        let body ← commands n []
        if !(← rest).isEmpty then unexpected
        set saved
        return .output body (!place.isBare) :: (← pieces n place false)
    | c :: r =>
      if place.isBare && c = '\'' then
        let inner := r.takeWhile (· ≠ '\'')
        if inner.length = r.length then
          take s.length
          fail "Unterminated quoted string".toList
        else
          take (inner.length + 2)
          return .quoted inner :: (← pieces n place false)
      else if c = '"' && place ≠ .document then
        take 1
        if place = .doubleQuotes then return []
        let inner ← pieces n .doubleQuotes false
        return .quoted [] :: inner ++ (← pieces n place false)
      else if place = .word && endsWord c then return []
      else if c = '\x7d' && place ∈ [.braces true, .braces false] then
        take 1
        return []
      else match place, c with
        | .calculation 0, ')' =>
          if r.head? = some ')' then
            take 2
            return []
          else fail "Missing '))'".toList
        | .calculation (depth + 1), ')' =>
          take 1
          return .quoted [c] :: (← pieces n (.calculation depth) false)
        | .calculation depth, '(' =>
          take 1
          return .quoted [c] :: (← pieces n (.calculation (depth + 1)) false)
        | .word, '~' =>
          take 1
          let isHome := atStart && r.head?.all fun c => c = '/' || endsWord c
          return (if isHome then .home else .plain ['~']) :: (← pieces n place false)
        | _, _ =>
          let run := c :: r.takeWhile isOrdinary
          take run.length
          return place.literal run :: (← pieces n place false)

/-- The piece after a dollar sign. -/
def dollar : (steps : Nat) → Place → Parser Piece
  | 0, _ => fail "script too long".toList
  | n + 1, place => do
    let inQuotes := !place.isBare
    if ← accept "((" then return .calculation (← pieces n (.calculation 0) false) inQuotes
    if ← accept "(" then
      let body ← commands n []
      skipSpace
      if ← accept ")" then return .output body inQuotes
      expecting "\")\"".toList
    if ← accept "\x7b" then return ← braces n inQuotes
    let name := parameterName (← rest)
    if name.isEmpty then return place.literal ['$']
    let name := if name.head?.any Char.isDigit then name.take 1 else name
    take name.length
    return .parameter name .value inQuotes

/-- A parameter in braces, after the opening one. -/
def braces : (steps : Nat) → (inQuotes : Bool) → Parser Piece
  | 0, _ => fail "script too long".toList
  | n + 1, inQuotes => do
    let s ← rest
    let counted := parameterName (s.drop 1)
    if s.head? = some '#' && !counted.isEmpty
        && (s.drop (1 + counted.length)).head? = some '\x7d' then
      take (counted.length + 2)
      return .parameter counted .length inQuotes
    let name := parameterName s
    take name.length
    let s ← rest
    if !name.isEmpty && s.head? = some '\x7d' then
      take 1
      return .parameter name .value inQuotes
    let orEmpty := s.head? = some ':'
    let s := if orEmpty then s.drop 1 else s
    let kind : Option Fallback :=
      match s.head? with
      | some '-' => some .otherwise
      | some '=' => some .assigning
      | some '?' => some .failing
      | some '+' => some .instead
      | _ => none
    match kind with
    | some kind =>
      take (if orEmpty then 2 else 1)
      let word ← pieces n (.braces inQuotes) false
      return if name.isEmpty then .meaningless
        else .parameter name (.fallback kind orEmpty word) inQuotes
    | none =>
      match s.head?.filter fun c => !orEmpty && (c = '%' || c = '#') with
      | some sign =>
        let longest := (s.drop 1).head? = some sign
        take (if longest then 2 else 1)
        let pattern ← pieces n (.braces false) false
        return if name.isEmpty then .meaningless
          else .parameter name (.trim (sign = '%') longest pattern) inQuotes
      | none =>
        let _ ← pieces n (.braces inQuotes) false
        return .meaningless

/-- The redirections that come now. -/
def redirections : (steps : Nat) → Parser (List Redirection)
  | 0 => fail "script too long".toList
  | n + 1 => do
    skipBlanks
    match redirectionOperator? (← rest) with
    | none => return []
    | some (number, operator) =>
      let r ← redirection n number operator
      return r :: (← redirections n)

/-- A redirection, from its operator on. -/
def redirection : (steps : Nat) → (number : Option Nat) → (operator : String) → Parser Redirection
  | 0, _, _ => fail "script too long".toList
  | n + 1, number, operator => do
    take ((← rest).takeWhile Char.isDigit).length
    take operator.length
    skipBlanks
    let before ← rest
    let target ← pieces n .word true
    if target.isEmpty then unexpected
    let input := number.getD 0
    let output := number.getD 1
    match operator with
    | "<" | "<>" => return .file input .input target
    | ">" | ">|" => return .file output .output target
    | ">>" => return .file output .append target
    | "<&" => return .copy input target
    | ">&" => return .copy output target
    | _ =>
      let isQuoted := target.any Piece.isQuoted
      let written := before.take (before.length - (← rest).length)
      let delimiter := written.filter fun c => !"\\'\"".toList.contains c
      let body ← takeDocument (operator = "<<-") delimiter
      if isQuoted then return .document input [.quoted body]
      let saved ← get
      set { rest := body, line := saved.line : Source }
      let content ← pieces n .document false
      set saved
      return .document input content

/-- A simple command, or the definition of a function. -/
def simple : (steps : Nat) → (line : Nat) → (assignments : List (Octets × Word)) →
    (words : List Word) → (redirected : List Redirection) → Parser Command
  | 0, _, _, _, _ => fail "script too long".toList
  | n + 1, line, assignments, words, redirected => do
    let rs ← redirections n
    let redirected := redirected ++ rs
    let s ← rest
    if s.head?.all endsWord then
      match words, s with
      | [[.plain name]], '(' :: _ =>
        if assignments.isEmpty && redirected.isEmpty && isName name then
          take 1
          skipBlanks
          if !(← accept ")") then expecting "\")\"".toList
          skipSpace
          return .define name (← command n)
        else unexpected
      | _, '(' :: _ => unexpected
      | _, _ =>
        if assignments.isEmpty && words.isEmpty && redirected.isEmpty then unexpected
        return .simple line assignments words redirected
    else
      let w ← pieces n .word true
      match words, w with
      | [], .plain s :: tail =>
        let name := s.takeWhile (· ≠ '=')
        if name.length < s.length && isName name then
          let first := s.drop (name.length + 1)
          let value : Word := if first.isEmpty then tail else .plain first :: tail
          let value := withHomes true value
          simple n line (assignments ++ [(name, value)]) words redirected
        else simple n line assignments [w] redirected
      | _, _ => simple n line assignments (words ++ [w]) redirected

/-- Commands between two words with a meaning of their own, of which there must be one. -/
def body : (steps : Nat) → (stop : List String) → Parser (List Command)
  | 0, _ => fail "script too long".toList
  | n + 1, stop => do
    let cs ← commands n stop
    if cs.isEmpty then unexpected
    return cs

/-- The rest of a choice, after its first word. -/
def choice : (steps : Nat) → Parser Command
  | 0 => fail "script too long".toList
  | n + 1 => do
    let test ← body n ["then"]
    require "then"
    let yes ← body n ["elif", "else", "fi"]
    if ← acceptWord "elif" then return .choice test yes [← choice n]
    let no ← if ← acceptWord "else" then body n ["fi"] else pure []
    require "fi"
    return .choice test yes no

/-- The arms of a selection, with its last word. -/
def arms : (steps : Nat) → Parser (List Arm)
  | 0 => fail "script too long".toList
  | n + 1 => do
    skipSpace
    if ← acceptWord "esac" then return []
    let _ ← accept "("
    let patterns ← alternatives n
    let cs ← commands n ["esac"]
    skipSpace
    if ← accept ";;" then return (patterns, cs) :: (← arms n)
    if ← acceptWord "esac" then return [(patterns, cs)]
    expecting "\";;\"".toList

/-- The patterns of an arm, with the bracket after them. -/
def alternatives : (steps : Nat) → Parser (List Word)
  | 0 => fail "script too long".toList
  | n + 1 => do
    skipBlanks
    if (← rest).head?.all endsWord then unexpected
    let w ← pieces n .word true
    skipBlanks
    if ← accept "|" then return w :: (← alternatives n)
    if ← accept ")" then return [w]
    expecting "\")\"".toList

/-- Words up to the end of the line or a semicolon. -/
def wordList : (steps : Nat) → Parser (List Word)
  | 0 => fail "script too long".toList
  | n + 1 => do
    skipBlanks
    match (← rest).head? with
    | some ';' | some '\n' =>
      take 1
      return []
    | some c =>
      if endsWord c then unexpected
      let w ← pieces n .word true
      return w :: (← wordList n)
    | none => unexpected

/-- The body of a repetition with its words. -/
def repeated : (steps : Nat) → Parser (List Command)
  | 0 => fail "script too long".toList
  | n + 1 => do
    skipSpace
    require "do"
    let cs ← body n ["done"]
    require "done"
    return cs

/-- A command. -/
def command : (steps : Nat) → Parser Command
  | 0 => fail "script too long".toList
  | n + 1 => do
    skipBlanks
    let line := (← get).line
    let compound : Option Command ← do
      if ← accept "(" then
        let cs ← body n []
        skipSpace
        if !(← accept ")") then expecting "\")\"".toList
        pure (some (Command.subshell cs))
      else match (← reserved?).map String.ofList with
        | some "\x7b" =>
          take 1
          let cs ← body n ["\x7d"]
          require "\x7d"
          pure (some (.group cs))
        | some "if" =>
          take 2
          pure (some (← choice n))
        | some "while" =>
          take 5
          let test ← body n ["do"]
          pure (some (.loop false test (← repeated n)))
        | some "until" =>
          take 5
          let test ← body n ["do"]
          pure (some (.loop true test (← repeated n)))
        | some "for" =>
          take 3
          skipBlanks
          let name := (← rest).takeWhile continuesName
          if !isName name then fail "Bad for loop variable".toList
          take name.length
          skipSpace
          let words ← if ← acceptWord "in" then some <$> wordList n else do
            let _ ← accept ";"
            pure none
          pure (some (.iterate name words (← repeated n)))
        | some "case" =>
          take 4
          skipBlanks
          if (← rest).head?.all endsWord then unexpected
          let subject ← pieces n .word true
          skipSpace
          require "in"
          pure (some (.select subject (← arms n)))
        | some "!" => unexpected
        | some _ => unexpected
        | none => pure none
    match compound with
    | some c =>
      let rs ← redirections n
      skipBlanks
      if (← rest).head?.all fun c => endsWord c && c ≠ '(' then
        return if rs.isEmpty then c else .redirected c line rs
      if (← reserved?).isSome then
        return if rs.isEmpty then c else .redirected c line rs
      unexpected
    | none => simple n line [] [] []

/-- The stages of a pipeline after a bar. -/
def stages : (steps : Nat) → Parser (List Command)
  | 0 => fail "script too long".toList
  | n + 1 => do
    let c ← command n
    skipBlanks
    let isBar := !(← sees "||") && (← sees "|")
    if isBar then
      take 1
      skipSpace
      return c :: (← stages n)
    return [c]

/-- A pipeline. -/
def pipeline : (steps : Nat) → Parser Command
  | 0 => fail "script too long".toList
  | n + 1 => do
    if ← acceptWord "!" then return .negated (← pipeline n)
    match ← stages n with
    | [c] => return c
    | cs => return .pipeline cs

/-- Pipelines joined by success and failure, after the first. -/
def joined : (steps : Nat) → Command → Parser Command
  | 0, _ => fail "script too long".toList
  | n + 1, first => do
    skipBlanks
    if ← accept "&&" then
      skipSpace
      let second ← pipeline n
      joined n (.both first second)
    else if ← accept "||" then
      skipSpace
      let second ← pipeline n
      joined n (.either first second)
    else return first

/-- Commands up to a word with a meaning of its own, a bracket, or the end. -/
def commands : (steps : Nat) → (stop : List String) → Parser (List Command)
  | 0, _ => fail "script too long".toList
  | n + 1, stop => do
    skipSpace
    let s ← rest
    if s.isEmpty || s.head? = some ')' || Text.startsWith s [';', ';'] then return []
    if (← reserved?).any fun w => stop.contains (String.ofList w) then return []
    let first ← pipeline n
    let c ← joined n first
    skipBlanks
    if ← sees ";;" then return [c]
    if ← accept ";" then return c :: (← commands n stop)
    if ← accept "&" then return .background c :: (← commands n stop)
    if ← sees "\n" then return c :: (← commands n stop)
    return [c]

/-- The commands of one line. -/
def line : (steps : Nat) → Parser (List Command)
  | 0 => fail "script too long".toList
  | n + 1 => do
    skipBlanks
    if (← rest).isEmpty || (← accept "\n") then return []
    let first ← pipeline n
    let c ← joined n first
    skipBlanks
    if ← sees ";;" then unexpected
    if ← accept ";" then return c :: (← line n)
    if ← accept "&" then return .background c :: (← line n)
    if (← rest).isEmpty || (← accept "\n") then return [c]
    unexpected

end

end Parser

/-- As many steps as reading a source can need. -/
def Source.steps (s : Source) : Nat :=
  16 * (s.rest.length + 4)

/-- The commands of the next line of a script, and what is left; nothing at its end. -/
def Source.next (s : Source) : Except SyntaxFault (Option (List Command × Source)) :=
  if (Source.afterSpace s.rest).isEmpty then .ok none
  else ((Parser.skipSpace *> Parser.line s.steps).run s).map some

end Shell

end NotebookEngine
