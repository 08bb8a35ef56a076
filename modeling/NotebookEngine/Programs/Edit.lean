import NotebookEngine.Programs.Basic
import NotebookEngine.Programs.Expression

/-!
# The stream editor

A script of commands, each for the lines it is addressed to. `Script.ofText?` reads a script,
`Cycle.commands` carries it out on one line, and `sed` does so for all lines of its inputs.
-/

namespace NotebookEngine

namespace Programs

open Host (Octets Act Request)

namespace Edit

/-! ### Scripts -/

/-- A line that a command is addressed to. -/
inductive Address where
  | line (n : Nat)
  | final
  | found (e : Expression) (ignoreCase : Bool)

/-- The lines that a command is addressed to. -/
inductive Addresses where
  | all
  | one (a : Address)
  | range (first last : Address)

/-- A part of a replacement. -/
inductive Part where
  | text (s : Octets)
  /-- What a group has matched; under zero all that was matched. -/
  | group (number : Nat)
deriving DecidableEq, Repr

/-- What a command does to the line at hand. -/
inductive Action where
  /-- The match of this number, and all after it if so said, is replaced. -/
  | substitute (e : Expression) (ignoreCase : Bool) (parts : List Part) (number : Nat)
      (global printed : Bool)
  | exchange (pairs : List (Char × Char))
  | print
  | delete
  | quit
  | number
  | append (s : Octets)
  | insert (s : Octets)
  | change (s : Octets)
  | keep (adding : Bool)
  | fetch (adding : Bool)
  | swap
  | block (length : Nat)

/-- A command. -/
structure Order where
  addresses : Addresses
  negated : Bool
  action : Action

/-- The text up to a divider that no backslash precedes, and what follows it. A backslash before the
divider is dropped, except before an end of line. -/
def upTo (divider : Char) : Octets → Option (Octets × Octets)
  | [] => none
  | '\\' :: c :: r =>
    (upTo divider r).map fun (t, r) =>
      if c = divider then (c :: t, r) else ('\\' :: c :: t, r)
  | c :: r =>
    if c = divider then some ([], r) else (upTo divider r).map fun (t, r) => (c :: t, r)

/-- The parts of a replacement. -/
def partsOf : Octets → List Part
  | [] => []
  | '\\' :: c :: r =>
    if c.isDigit then .group (c.toNat - '0'.toNat) :: partsOf r
    else .text [if c = 'n' then '\n' else if c = 't' then '\t' else c] :: partsOf r
  | '&' :: r => .group 0 :: partsOf r
  | c :: r => .text [c] :: partsOf r

/-- Space is left out. -/
def skip (s : Octets) : Octets :=
  s.dropWhile fun c => c = ' ' || c = '\t'

/-- An address at the front of a script, and what follows it. -/
def address? (extended : Bool) (s : Octets) : Option (Option (Address × Octets)) :=
  match s with
  | '$' :: r => some (some (.final, r))
  | '/' :: r => do
    let (t, r) ← upTo '/' r
    let e ← Expression.ofText? extended t
    match r with
    | 'I' :: r => some (some (.found e true, r))
    | r => some (some (.found e false, r))
  | s =>
    let ds := s.takeWhile Char.isDigit
    if ds.isEmpty then some none
    else some (((String.ofList ds).toNat?).map fun n => (.line n, s.drop ds.length))

/-- The addresses at the front of a script, whether they are negated, and what follows them. -/
def addresses? (extended : Bool) (s : Octets) : Option (Addresses × Bool × Octets) := do
  let (a, r) ← match ← address? extended s with
    | none => some (Addresses.all, s)
    | some (first, r) =>
      match skip r with
      | ',' :: r =>
        match ← address? extended (skip r) with
        | some (last, r) => some (.range first last, r)
        | none => none
      | r => some (.one first, r)
  match skip r with
  | '!' :: r => some (a, true, skip r)
  | r => some (a, false, r)

/-- The flags of a substitution. -/
structure Flags where
  number : Nat := 1
  global : Bool := false
  printed : Bool := false
  ignoreCase : Bool := false
deriving DecidableEq, Repr

/-- The flags at the front of a script, and what follows them. -/
def flags : Octets → Flags × Octets
  | [] => ({}, [])
  | c :: r =>
    if c = 'g' then let (f, r) := flags r; ({ f with global := true }, r)
    else if c = 'p' then let (f, r) := flags r; ({ f with printed := true }, r)
    else if c = 'I' || c = 'i' then let (f, r) := flags r; ({ f with ignoreCase := true }, r)
    else if c.isDigit && c ≠ '0' then
      let (f, r) := flags r
      ({ f with number := c.toNat - '0'.toNat }, r)
    else ({}, c :: r)

/-- The text of a command that adds lines, and what follows it. -/
def addedText (s : Octets) : Octets × Octets :=
  let s := skip s
  let s := match s with
    | '\\' :: '\n' :: r => r
    | '\\' :: r => r
    | r => r
  let line := s.takeWhile (· ≠ '\n')
  (line ++ ['\n'], s.drop line.length)

mutual

/-- The commands of a script up to its end, or that of a block. -/
def orders? (extended : Bool) : (steps : Nat) → Octets → Option (List Order × Octets)
  | 0, _ => none
  | n + 1, s =>
    let s := s.dropWhile fun c => c = ';' || c = '\n' || c = ' ' || c = '\t'
    match s with
    | [] => some ([], [])
    | '\x7d' :: r => some ([], r)
    | '#' :: r => orders? extended n (r.dropWhile (· ≠ '\n'))
    | s => do
      let (addresses, negated, r) ← addresses? extended s
      let (actions, r) ← action? extended n addresses negated (skip r)
      let (rest, r) ← orders? extended n r
      some (actions ++ rest, r)

/-- The command after its addresses; a block is followed by the commands in it. -/
def action? (extended : Bool) : (steps : Nat) → Addresses → Bool → Octets →
    Option (List Order × Octets)
  | 0, _, _, _ => none
  | n + 1, addresses, negated, s =>
    let simple (a : Action) (r : Octets) : Option (List Order × Octets) :=
      some ([⟨addresses, negated, a⟩], r)
    match s with
    | '\x7b' :: r => do
      let (inner, r) ← orders? extended n r
      some (⟨addresses, negated, .block inner.length⟩ :: inner, r)
    | 's' :: d :: r => do
      let (t, r) ← upTo d r
      let (new, r) ← upTo d r
      let e ← Expression.ofText? extended t
      let (f, r) := flags r
      simple (.substitute e f.ignoreCase (partsOf new) f.number f.global f.printed) r
    | 'y' :: d :: r => do
      let (t, r) ← upTo d r
      let (new, r) ← upTo d r
      if t.length = new.length then simple (.exchange (t.zip new)) r else none
    | 'p' :: r => simple .print r
    | 'd' :: r => simple .delete r
    | 'q' :: r => simple .quit r
    | '=' :: r => simple .number r
    | 'h' :: r => simple (.keep false) r
    | 'H' :: r => simple (.keep true) r
    | 'g' :: r => simple (.fetch false) r
    | 'G' :: r => simple (.fetch true) r
    | 'x' :: r => simple .swap r
    | 'a' :: r => let (t, r) := addedText r; simple (.append t) r
    | 'i' :: r => let (t, r) := addedText r; simple (.insert t) r
    | 'c' :: r => let (t, r) := addedText r; simple (.change t) r
    | _ => none

end

/-- The commands of a script. -/
def script? (extended : Bool) (s : Octets) : Option (List Order) :=
  match orders? extended (4 * (s.length + 4)) s with
  | some (os, []) => some os
  | _ => none

/-! ### Carrying out -/

/-- The editor at a line: the line, what is kept beside it, what has been written, and which of the
ranges are open. -/
structure Cycle where
  line : Octets
  number : Nat
  isLast : Bool
  kept : Octets := []
  written : Octets := []
  /-- What is written after the line. -/
  added : Octets := []
  openRanges : List Nat := []
  isDeleted : Bool := false
  isOver : Bool := false

/-- A line is one that is addressed. -/
def Cycle.isAt (c : Cycle) : Address → Bool
  | .line n => c.number = n
  | .final => c.isLast
  | .found e ignoreCase => (Expression.search? ignoreCase e 0 c.line).isSome

/-- Whether a command is for the line, and the ranges that are open after it. -/
def Cycle.isFor (c : Cycle) (index : Nat) : Addresses → Bool × List Nat
  | .all => (true, c.openRanges)
  | .one a => (c.isAt a, c.openRanges)
  | .range first last =>
    let closed := c.openRanges.filter (· ≠ index)
    let isPast (a : Address) : Bool := match a with
      | .line n => n ≤ c.number
      | _ => false
    if c.openRanges.contains index then
      if c.isAt last || isPast last then (true, closed) else (true, c.openRanges)
    else if c.isAt first then (true, if isPast last then closed else index :: closed)
    else (false, c.openRanges)

/-- The text of a replacement. -/
def replacement (parts : List Part) (l : Octets) (m : Expression.Match) : Octets :=
  parts.flatMap fun
    | .text s => s
    | .group 0 => (l.take m.stop).drop m.start
    | .group n => (m.groups.lookup n).getD []

/-- The line with matches replaced from a place on, counting matches; whether any was. -/
def substitute (e : Expression) (ignoreCase : Bool) (parts : List Part) (number : Nat)
    (global : Bool) (l : Octets) : (steps : Nat) → (start count : Nat) → Octets × Bool
  | 0, start, _ => (l.drop start, false)
  | n + 1, start, count =>
    match Expression.search? ignoreCase e start l with
    | none => (l.drop start, false)
    | some m =>
      let before := (l.take m.start).drop start
      let isChosen := count = number || (global && number ≤ count)
      let new := if isChosen then replacement parts l m else (l.take m.stop).drop m.start
      if isChosen && !global then (before ++ new ++ l.drop m.stop, true)
      else if m.stop = m.start then
        let passed := (l.drop m.stop).take 1
        if passed.isEmpty then (before ++ new, isChosen)
        else
          let (rest, changed) :=
            substitute e ignoreCase parts number global l n (m.stop + 1) (count + 1)
          (before ++ new ++ passed ++ rest, isChosen || changed)
      else
        let (rest, changed) := substituteAfter n m.stop (count + 1)
        (before ++ new ++ rest, isChosen || changed)
where
  /-- After a match that is not empty, an empty match at its end does not count. -/
  substituteAfter (n start count : Nat) : Octets × Bool :=
    match Expression.search? ignoreCase e start l with
    | some m =>
      if m.start = start && m.stop = start then
        let passed := (l.drop start).take 1
        if passed.isEmpty then ([], false)
        else
          let (rest, changed) :=
            substitute e ignoreCase parts number global l n (start + 1) count
          (passed ++ rest, changed)
      else substitute e ignoreCase parts number global l n start count
    | none => (l.drop start, false)

/-- The editor after a command for the line. -/
def Cycle.act (c : Cycle) : Action → Cycle
  | .substitute e ignoreCase parts number global printed =>
    let (l, changed) := Edit.substitute e ignoreCase parts number global c.line
      (2 * c.line.length + 4) 0 1
    { c with
      line := if changed then l else c.line
      written := if changed && printed then c.written ++ l ++ ['\n'] else c.written }
  | .exchange pairs => { c with line := c.line.map fun k => (pairs.lookup k).getD k }
  | .print => { c with written := c.written ++ c.line ++ ['\n'] }
  | .delete => { c with isDeleted := true }
  | .quit => { c with isOver := true }
  | .number => { c with written := c.written ++ Text.ofNat c.number ++ ['\n'] }
  | .append s => { c with added := c.added ++ s }
  | .insert s => { c with written := c.written ++ s }
  | .change s => { c with written := c.written ++ s, isDeleted := true }
  | .keep adding => { c with kept := if adding then c.kept ++ '\n' :: c.line else c.line }
  | .fetch adding => { c with line := if adding then c.line ++ '\n' :: c.kept else c.kept }
  | .swap => { c with line := c.kept, kept := c.line }
  | .block _ => c

/-- The editor after a list of commands, of which so many first are left out. -/
def Cycle.commands : (index skipped : Nat) → List Order → Cycle → Cycle
  | _, _, [], c => c
  | i, k + 1, _ :: os, c => Cycle.commands (i + 1) k os c
  | i, 0, o :: os, c =>
    if c.isDeleted || c.isOver then c
    else
      let (isFor, openRanges) := c.isFor i o.addresses
      let c := { c with openRanges }
      match o.action with
      | .block length =>
        Cycle.commands (i + 1) (if isFor != o.negated then 0 else length) os c
      | a => Cycle.commands (i + 1) 0 os (if isFor != o.negated then c.act a else c)

/-- What the editor writes for the lines of a text. -/
def run (quiet : Bool) (os : List Order) : (number : Nat) → (kept : Octets) →
    (openRanges : List Nat) → List (Octets × Bool) → Octets
  | _, _, _, [] => []
  | n, kept, openRanges, (l, isEnded) :: ls =>
    let c := Cycle.commands 0 0 os
      { line := l, number := n, isLast := ls.isEmpty, kept, openRanges }
    let shown := if quiet || c.isDeleted then [] else c.line ++ if isEnded then ['\n'] else []
    let text := c.written ++ shown ++ c.added
    if c.isOver then text else text ++ run quiet os (n + 1) c.kept c.openRanges ls

end Edit

/-- Writes inputs as a script changes them. -/
def sed : Utility := fun arguments => do
  let o := Options.ofArguments "nErsuz" "ef" arguments
  understanding "sed" o do
    let given := (o.values.filter fun v => v.1 = 'e').map Prod.snd
    let (scripts, operands) :=
      if given.isEmpty then (o.operands.take 1, o.operands.drop 1) else (given, o.operands)
    match scripts, Edit.script? (o.has 'E' || o.has 'r') (Text.join ['\n'] scripts) with
    | [], _ =>
      Act.write 2 "Usage: sed [OPTION]... \x7bscript-only-if-no-other-script\x7d [input-file]...\n".toList
      return 1
    | _, none =>
      complain "sed" "-e expression #1: unknown command".toList
      return 1
    | _, some os =>
      let mut ok := true
      let mut all : Octets := []
      for path in inputs operands do
        match ← readInput path with
        | .ok s => all := all ++ s
        | .error .isDirectory =>
          complain "sed" ("couldn't edit ".toList ++ path ++ ": not a regular file".toList)
          ok := false
        | .error f =>
          complain "sed" ("can't read ".toList ++ path ++ ": ".toList ++ f.words)
          ok := false
      put (Edit.run (o.has 'n') os 1 [] [] (linesOf all))
      return if ok then 0 else 2

end Programs

end NotebookEngine
