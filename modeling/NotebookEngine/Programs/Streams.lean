import NotebookEngine.Programs.Basic
import NotebookEngine.Programs.Expression

/-!
# Programs on streams

Programs that read inputs and write what they make of them: copies (`cat`, `tee`), parts (`head`,
`tail`, `grep`, `cut`), counts (`wc`), other characters (`tr`) and other orders (`sort`, `uniq`).
-/

namespace NotebookEngine

namespace Programs

open Host (Octets Act Request)

/-- Something is done with each input in turn; an input that cannot be read is complained of. -/
def forInputs (program : String) (paths : List Octets) (wording : Octets → Octets)
    (act : Octets → Octets → Act Unit) : Act Bool := do
  let mut ok := true
  for path in paths do
    match ← readInput path with
    | .ok s => act path s
    | .error f =>
      complain program (wording path ++ ": ".toList ++ f.words)
      ok := false
  return ok

/-! ### Copies -/

/-- What can be read is written, piece by piece. -/
def copy (file : Nat) : (pieces : Nat) → Act (Option Host.Fault)
  | 0 => Act.spin
  | n + 1 => do
    match ← Act.ask (.read file false) with
    | .ok [] => return none
    | .ok part =>
      put part
      copy file n
    | .error f => return some f

/-- Copies inputs to the output. -/
def cat : Utility := fun arguments => do
  let o := Options.ofArguments "uvAbenstET" "" arguments
  understanding "cat" o do
    let mut ok := true
    for path in inputs o.operands do
      if path = ['-'] then
        let _ ← copy 0 readingLimit
      else
        match ← Act.ask (.openFile path .reading) with
        | .error f =>
          complain "cat" (path ++ ": ".toList ++ f.words)
          ok := false
        | .ok file =>
          match ← copy file readingLimit with
          | none => pure ()
          | some f =>
            complain "cat" (path ++ ": ".toList ++ f.words)
            ok := false
          let _ ← Act.ask (.close file)
    return codeOf ok

/-- Copies the input to the output and to files. -/
def tee : Utility := fun arguments => do
  let o := Options.ofArguments "ai" "" arguments
  understanding "tee" o do
    let s ← Act.readAll 0 readingLimit
    put s
    let mut ok := true
    for path in o.operands do
      match ← Act.ask (.openFile path (if o.has 'a' then .appending else .writing)) with
      | .ok file =>
        Act.write file s
        let _ ← Act.ask (.close file)
      | .error f =>
        complain "tee" (path ++ ": ".toList ++ f.words)
        ok := false
    return codeOf ok

/-! ### Parts -/

/-- A count given as an option of its own, such as `-5`, is given as the option it stands for. -/
def longCounts (arguments : List Octets) : List Octets :=
  arguments.map fun
    | '-' :: c :: cs => if c.isDigit then '-' :: 'n' :: c :: cs else '-' :: c :: cs
    | a => a

/-- The first lines are written, reading no further than they go. -/
def headLines (file : Nat) : (lines : Nat) → (pieces : Nat) → Act Unit
  | 0, _ => return
  | _, 0 => Act.spin
  | k, n + 1 => do
    match ← Act.ask (.read file false) with
    | .error _ | .ok [] => return
    | .ok part =>
      let ls := (linesOf part).take k
      put (ls.flatMap fun l => if l.2 then l.1 ++ ['\n'] else l.1)
      headLines file (k - (ls.filter Prod.snd).length) n

/-- The first octets are written, reading no further than they go. -/
def headOctets (file : Nat) : (octets : Nat) → (pieces : Nat) → Act Unit
  | 0, _ => return
  | _, 0 => Act.spin
  | k, n + 1 => do
    match ← Act.ask (.read file false) with
    | .error _ | .ok [] => return
    | .ok part =>
      put (part.take k)
      headOctets file (k - (part.take k).length) n

/-- The line above an input where there are several. -/
def header (path : Octets) : Octets :=
  "==> ".toList ++ (if path = ['-'] then "standard input".toList else path) ++ " <==\n".toList

/-- Writes the first part of inputs. -/
def head : Utility := fun arguments => do
  let o := Options.ofArguments "qv" "nc" (longCounts arguments)
  understanding "head" o do
    let paths := inputs o.operands
    let opening (file : Nat) : Act Unit :=
      match (o.value? 'c').bind natural? with
      | some k => headOctets file k readingLimit
      | none => headLines file (((o.value? 'n').bind natural?).getD 10) readingLimit
    let mut ok := true
    let mut isFirst := true
    for path in paths do
      let titled := (1 < paths.length || o.has 'v') && !o.has 'q'
      let title : Act Unit := do
        if titled then put ((if isFirst then [] else ['\n']) ++ header path)
      if path = ['-'] then
        title
        opening 0
      else
        match ← Act.ask (.openFile path .reading) with
        | .error f =>
          complain "head" ("cannot open ".toList ++ quoted path ++ " for reading: ".toList
            ++ f.words)
          ok := false
        | .ok file =>
          title
          opening file
          let _ ← Act.ask (.close file)
      isFirst := false
    return codeOf ok

/-- Writes the last part of inputs. -/
def tail : Utility := fun arguments => do
  let o := Options.ofArguments "qv" "nc" (longCounts arguments)
  understanding "tail" o do
    let part (s : Octets) : Octets :=
      match o.value? 'c' with
      | some ('+' :: k) => s.drop ((natural? k).getD 1 - 1)
      | some k => s.drop (s.length - (natural? k).getD 0)
      | none =>
        let ls := linesOf s
        let kept :=
          match o.value? 'n' with
          | some ('+' :: k) => ls.drop ((natural? k).getD 1 - 1)
          | k => ls.drop (ls.length - ((k.bind natural?).getD 10))
        kept.flatMap fun l => if l.2 then l.1 ++ ['\n'] else l.1
    let paths := inputs o.operands
    let ok ← forInputs "tail" paths
      (fun p => "cannot open ".toList ++ quoted p ++ " for reading".toList) fun path s => do
        if 1 < paths.length && !o.has 'q' then
          put ((if paths.head? = some path then [] else ['\n']) ++ header path)
        put (part s)
    return codeOf ok

/-- The field of a list such as `1,3-4` holds a number. -/
def inRanges (list : Octets) (k : Nat) : Bool :=
  (Text.pieces ',' list).any fun r =>
    match Text.pieces '-' r with
    | [a] => natural? a = some k
    | [a, b] => (natural? a).getD 1 ≤ k && (b.isEmpty || k ≤ (natural? b).getD 0)
    | _ => false

/-- Writes parts of each line. -/
def cut : Utility := fun arguments => do
  let o := Options.ofArguments "s" "dfcb" arguments
  understanding "cut" o do
    let divider := ((o.value? 'd').bind List.head?).getD '\t'
    let part (l : Octets) : Option Octets :=
      match o.value? 'f' with
      | some list =>
        if !l.contains divider then if o.has 's' then none else some l
        else
          let fields := (Text.pieces divider l).zipIdx.filter fun f => inRanges list (f.2 + 1)
          some (Text.join [divider] (fields.map Prod.fst))
      | none =>
        let list := ((o.value? 'c').or (o.value? 'b')).getD []
        some ((l.zipIdx.filter fun c => inRanges list (c.2 + 1)).map Prod.fst)
    let ok ← forInputs "cut" (inputs o.operands) id fun _ s =>
      put (((linesOf s).filterMap fun l => part l.1).flatMap fun l => l ++ ['\n'])
    return codeOf ok

/-! ### Searching -/

/-- The expressions that lines are searched for: one for each line of each pattern. -/
def searched (o : Options) (patterns : List Octets) : Option (List Expression) :=
  (patterns.flatMap (Text.pieces '\n')).mapM fun p =>
    if o.has 'F' then some (p.foldr (fun c e => .sequence (Expression.literal c) e) .nothing)
    else Expression.ofText? (o.has 'E') p

/-- The match covers a whole word. -/
def coversWord (l : Octets) (m : Expression.Match) : Bool :=
  let isWordChar (c : Char) : Bool := c.isAlphanum || c = '_'
  !((l.take m.start).getLast?.any isWordChar) && !((l.drop m.stop).head?.any isWordChar)

/-- A line is one that is searched for. -/
def isFound (o : Options) (es : List Expression) (l : Octets) : Bool :=
  let found := es.any fun e =>
    if o.has 'x' then
      (Expression.search? (o.has 'i') (.sequence .atStart (.sequence e .atEnd)) 0 l).isSome
    else match Expression.search? (o.has 'i') e 0 l with
      | some m => !o.has 'w' || coversWord l m
      | none => false
  found != o.has 'v'

/-- The disjoint parts of a line that match an expression. -/
def foundParts (o : Options) (e : Expression) (l : Octets) : (steps : Nat) → (start : Nat) →
    List Octets
  | 0, _ => []
  | n + 1, start =>
    match Expression.search? (o.has 'i') e start l with
    | none => []
    | some m =>
      if m.stop = m.start then
        if l.length ≤ m.start then [] else foundParts o e l n (m.start + 1)
      else (l.take m.stop).drop m.start :: foundParts o e l n m.stop

/-- Writes the lines in which something is found. -/
def grep : Utility := fun arguments => do
  let o := Options.ofArguments "qvcinEFGxwoslhHa" "emA" arguments
  understanding "grep" o do
    let given := (o.values.filter fun v => v.1 = 'e').map Prod.snd
    let (patterns, operands) :=
      if given.isEmpty then (o.operands.take 1, o.operands.drop 1) else (given, o.operands)
    match patterns, searched o patterns with
    | [], _ =>
      Act.write 2 ("Usage: grep [OPTION]... PATTERNS [FILE]...\n".toList
        ++ "Try 'grep --help' for more information.\n".toList)
      return 2
    | _, none =>
      complain "grep" "Invalid regular expression".toList
      return 2
    | _, some es =>
      let mut found := false
      let mut failed := false
      let named := (1 < operands.length || o.has 'H') && !o.has 'h'
      for path in inputs operands do
        match ← readInput path with
        | .error f =>
          if !o.has 's' then complain "grep" (path ++ ": ".toList ++ f.words)
          failed := true
        | .ok s =>
          let name : Octets := if named then path ++ [':'] else []
          let all := (linesOf s).zipIdx.filter fun l => isFound o es l.1.1
          let all := (((o.value? 'm').bind natural?).map all.take).getD all
          if !all.isEmpty then found := true
          if o.has 'q' then
            if !all.isEmpty then return 0
          else if o.has 'l' then
            if !all.isEmpty then putLine path
          else if o.has 'c' then putLine (name ++ Text.ofNat all.length)
          else
            for (l, i) in all do
              let place : Octets := if o.has 'n' then Text.ofNat (i + 1) ++ [':'] else []
              if o.has 'o' && !o.has 'v' then
                for e in es.take 1 do
                  for part in foundParts o e l.1 (l.1.length + 1) 0 do
                    putLine (name ++ place ++ part)
              else putLine (name ++ place ++ l.1)
      return if failed then 2 else if found then 0 else 1

/-! ### Counts -/

/-- The words of a text. -/
def wordCount (s : Octets) : Nat :=
  (s.foldl (fun (count, inWord) c =>
    if c.isWhitespace || c = '\x0b' || c = '\x0c' then (count, false)
    else if inWord then (count, true)
    else (count + 1, true)) (0, false)).1

/-- Counts lines, words and octets of inputs. -/
def wc : Utility := fun arguments => do
  let o := Options.ofArguments "lwcm" "" arguments
  understanding "wc" o do
    let all := o.flags.isEmpty
    let counts (s : Octets) : List Nat :=
      (if all || o.has 'l' then [s.count '\n'] else [])
      ++ (if all || o.has 'w' then [wordCount s] else [])
      ++ (if all || o.has 'c' || o.has 'm' then [s.length] else [])
    let mut read : List (Octets × Octets) := []
    let mut ok := true
    for path in inputs o.operands do
      match ← readInput path with
      | .ok s => read := read ++ [(path, s)]
      | .error f =>
        complain "wc" (path ++ ": ".toList ++ f.words)
        ok := false
    let total := (read.map Prod.snd).flatten
    let isSingle := (counts []).length = 1 && o.operands.length ≤ 1
    let width :=
      if isSingle then 1
      else if o.operands.isEmpty then 7
      else (Text.ofNat total.length).length
    let row (name s : Octets) : Octets :=
      let numbers := (counts s).map fun n =>
        let t := Text.ofNat n
        List.replicate (width - t.length) ' ' ++ t
      Text.join [' '] numbers ++ (if name.isEmpty then [] else ' ' :: name) ++ ['\n']
    for (path, s) in read do
      put (row (if o.operands.isEmpty then [] else path) s)
    if 1 < o.operands.length then put (row "total".toList total)
    return codeOf ok

/-! ### Characters -/

/-- The characters of a set for `tr`. -/
def characters : (steps : Nat) → Octets → List Char
  | 0, _ => []
  | n + 1, s =>
    match s with
    | [] => []
    | '[' :: ':' :: r =>
      let name := r.takeWhile (· ≠ ':')
      let members := (Text.classRanges name).flatMap fun (a, b) => between a b
      if Text.startsWith (r.drop name.length) [':', ']'] && !members.isEmpty then
        members ++ characters n (r.drop (name.length + 2))
      else '[' :: characters n (':' :: r)
    | c :: r =>
      let (a, r) := single c r
      match r with
      | '-' :: d :: r' =>
        let (b, r') := single d r'
        between a b ++ characters n r'
      | r => a :: characters n r
where
  /-- The characters from one to another. -/
  between (a b : Char) : List Char :=
    (List.range (b.toNat + 1 - a.toNat)).map fun i => Char.ofNat (a.toNat + i)
  /-- A character, which may be written with a backslash, and what follows it. -/
  single (c : Char) (r : Octets) : Char × Octets :=
    if c ≠ '\\' then (c, r)
    else
      let ds := (r.take 3).takeWhile fun d => '0' ≤ d && d ≤ '7'
      if !ds.isEmpty then
        (Char.ofNat (ds.foldl (fun v d => v * 8 + (d.toNat - '0'.toNat)) 0 % 256),
          r.drop ds.length)
      else match r with
        | 'n' :: r => ('\n', r)
        | 't' :: r => ('\t', r)
        | 'r' :: r => ('\r', r)
        | 'a' :: r => ('\x07', r)
        | 'b' :: r => ('\x08', r)
        | 'f' :: r => ('\x0c', r)
        | 'v' :: r => ('\x0b', r)
        | d :: r => (d, r)
        | [] => ('\\', [])

/-- Repetitions of characters of a set become single. -/
def squeeze (isSqueezed : Char → Bool) (s : Octets) : Octets :=
  s.foldr (fun c t => if t.head? = some c && isSqueezed c then t else c :: t) []

/-- What becomes of each character; nothing of one that is removed. -/
def translator (o : Options) (sets : List (List Char)) : Octets → Octets :=
  let first := sets.head?.getD []
  let second := (sets.drop 1).head?.getD []
  let isIn (c : Char) : Bool := first.contains c != (o.has 'c' || o.has 'C')
  let padded := second ++ List.replicate (first.length - second.length)
    (second.getLast?.getD ' ')
  let image (c : Char) : Char :=
    if o.has 'c' || o.has 'C' then second.getLast?.getD c
    else ((first.zip padded).reverse.lookup c).getD c
  fun s =>
    if o.has 'd' then
      let s := s.filter fun c => !isIn c
      if o.has 's' then squeeze second.contains s else s
    else if second.isEmpty then squeeze isIn s
    else
      let s := s.map fun c => if isIn c then image c else c
      if o.has 's' then squeeze second.contains s else s

/-- The input is translated piece by piece; single repetitions need all of it at once. -/
def translate (f : Octets → Octets) : (pieces : Nat) → Act Unit
  | 0 => Act.spin
  | n + 1 => do
    match ← Act.ask (.read 0 false) with
    | .error _ | .ok [] => return
    | .ok part =>
      put (f part)
      translate f n

/-- Writes the input with other characters. -/
def tr : Utility := fun arguments => do
  let o := Options.ofArguments "cCds" "" arguments
  understanding "tr" o do
    let sets := o.operands.map fun a => characters (a.length + 1) a
    match sets with
    | [] =>
      complain "tr" "missing operand".toList
      Act.write 2 "Try 'tr --help' for more information.\n".toList
      return 1
    | [first] =>
      if !o.has 'd' && !o.has 's' then
        complain "tr" ("missing operand after ".toList ++ quoted (o.operands.head?.getD []))
        Act.write 2 ("Two strings must be given when translating.\n".toList
          ++ "Try 'tr --help' for more information.\n".toList)
        return 1
      let f := translator o [first]
      if o.has 's' then put (f (← Act.readAll 0 readingLimit)) else translate f readingLimit
      return 0
    | sets =>
      let f := translator o sets
      if o.has 's' then put (f (← Act.readAll 0 readingLimit)) else translate f readingLimit
      return 0

/-! ### Orders -/

/-- The number at the front of a line. -/
def leadingNumber (l : Octets) : Int :=
  let t := l.dropWhile fun c => c = ' ' || c = '\t'
  let (negative, t) := match t with
    | '-' :: t => (true, t)
    | t => (false, t)
  let n : Int := ((natural? (t.takeWhile Char.isDigit)).getD 0 : Nat)
  if negative then -n else n

/-- Neighbours that are alike become one, with their number. -/
def neighbours (ls : List Octets) : List (Octets × Nat) :=
  ls.foldr (fun l groups =>
    match groups with
    | (k, n) :: rest => if k = l then (k, n + 1) :: rest else (l, 1) :: groups
    | [] => [(l, 1)]) []

/-- Writes the lines of inputs in order. -/
def sort : Utility := fun arguments => do
  let o := Options.ofArguments "nruf" "tk" arguments
  understanding "sort" o do
    let mut all : List Octets := []
    let mut ok := true
    for path in inputs o.operands do
      match ← readInput path with
      | .ok s => all := all ++ (linesOf s).map Prod.fst
      | .error f =>
        complain "sort" ("cannot read: ".toList ++ path ++ ": ".toList ++ f.words)
        ok := false
    let precedes (a b : Octets) : Bool :=
      if o.has 'n' && leadingNumber a ≠ leadingNumber b then leadingNumber a < leadingNumber b
      else Octets.precedes a b
    let sorted := all.mergeSort precedes
    let sorted := if o.has 'u' then (neighbours sorted).map Prod.fst else sorted
    put ((if o.has 'r' then sorted.reverse else sorted).flatMap fun l => l ++ ['\n'])
    return if ok then 0 else 2

/-- Writes neighbours that are alike once. -/
def uniq : Utility := fun arguments => do
  let o := Options.ofArguments "cdu" "" arguments
  understanding "uniq" o do
    let ok ← forInputs "uniq" (inputs (o.operands.take 1)) id fun _ s => do
      let groups := (neighbours ((linesOf s).map Prod.fst)).filter fun g =>
        (!o.has 'd' || 1 < g.2) && (!o.has 'u' || g.2 = 1)
      for (l, n) in groups do
        let count := Text.ofNat n
        let shown := List.replicate (7 - count.length) ' ' ++ count ++ [' ']
        putLine (if o.has 'c' then shown ++ l else l)
    return codeOf ok

/-- Writes the lines of inputs, each backwards. -/
def rev : Utility := fun arguments => do
  let ok ← forInputs "rev" (inputs arguments) id fun _ s =>
    put ((linesOf s).flatMap fun l => l.1.reverse ++ if l.2 then ['\n'] else [])
  return codeOf ok

end Programs

end NotebookEngine
