import NotebookEngine.Shell.Calculation

/-!
# Escapes and formats

What a shell writes for the arguments of `echo` and `printf`: characters written with a backslash,
and directives that are filled by arguments.
-/

namespace NotebookEngine

namespace Shell

open Host (Octets)

namespace Format

/-! ### Escapes -/

/-- The value of at most so many octal digits at the front of a text, and how many there are. -/
def octal (most : Nat) (s : Octets) : Nat × Nat :=
  let ds := (s.take most).takeWhile fun c => '0' ≤ c && c ≤ '7'
  (ds.foldl (fun n c => n * 8 + (c.toNat - '0'.toNat)) 0, ds.length)

/-- The character that a letter after a backslash stands for. -/
def letter? : Char → Option Char
  | 'a' => some '\x07'
  | 'b' => some '\x08'
  | 'e' => some '\x1b'
  | 'f' => some '\x0c'
  | 'n' => some '\n'
  | 'r' => some '\r'
  | 't' => some '\t'
  | 'v' => some '\x0b'
  | '\\' => some '\\'
  | _ => none

/-- The octet of a number. -/
def octet (n : Nat) : Char :=
  Char.ofNat (n % 256)

/-- The text with its escapes resolved, and whether an escape has ended it. An octal number may begin
with a further zero. `skip` counts the characters of an escape already resolved. -/
def unescape (skip : Nat) : Octets → Octets × Bool
  | [] => ([], false)
  | c :: s =>
    if 0 < skip then unescape (skip - 1) s
    else if c ≠ '\\' then
      let (t, ended) := unescape 0 s
      (c :: t, ended)
    else match s with
      | [] => (['\\'], false)
      | 'c' :: _ => ([], true)
      | d :: r =>
        let (n, digits) := octal 3 (if d = '0' then r else s)
        if d = '0' || 0 < digits then
          let (t, ended) := unescape (digits + if d = '0' then 1 else 0) s
          (octet n :: t, ended)
        else match letter? d with
          | some k =>
            let (t, ended) := unescape 1 s
            (k :: t, ended)
          | none =>
            let (t, ended) := unescape 0 s
            ('\\' :: t, ended)

/-- What `echo` writes. -/
def echo (arguments : List Octets) : Octets :=
  let (isBare, arguments) :=
    match arguments with
    | ['-', 'n'] :: as => (true, as)
    | as => (false, as)
  let (text, ended) := unescape 0 (Text.join [' '] arguments)
  if isBare || ended then text else text ++ ['\n']

/-! ### Directives -/

/-- A directive: its flags, its width, its precision and its letter. -/
structure Directive where
  flags : List Char
  width : Option Nat
  precision : Option Nat
  letter : Char
deriving DecidableEq, Repr

/-- The state of filling a format: arguments left, text so far, and the faults met. -/
structure Filling where
  arguments : List Octets
  text : Octets := []
  faults : List Octets := []
  /-- Nothing more is written. -/
  isOver : Bool := false
  /-- Some directive has taken an argument, or looked for one. -/
  hasTaken : Bool := false
deriving DecidableEq, Repr

namespace Filling

/-- The next argument, which may be missing. -/
def take (f : Filling) : Option Octets × Filling :=
  match f.arguments with
  | [] => (none, { f with hasTaken := true })
  | a :: as => (some a, { f with arguments := as, hasTaken := true })

/-- Text is added. -/
def add (f : Filling) (s : Octets) : Filling :=
  { f with text := f.text ++ s }

/-- A fault is added. -/
def fault (f : Filling) (s : Octets) : Filling :=
  { f with faults := f.faults ++ [s] }

end Filling

/-- A text in a field of some width. -/
def pad (d : Directive) (s : Octets) : Octets :=
  let missing := d.width.getD 0 - s.length
  if d.flags.contains '-' then s ++ List.replicate missing ' '
  else List.replicate missing ' ' ++ s

/-- A number in a field of some width, from its sign and its digits. -/
def padNumber (d : Directive) (sign digits : Octets) : Octets :=
  let digits := List.replicate (d.precision.getD 0 - digits.length) '0' ++ digits
  if d.flags.contains '0' && !d.flags.contains '-' && d.precision.isNone then
    sign ++ List.replicate (d.width.getD 0 - sign.length - digits.length) '0' ++ digits
  else pad d (sign ++ digits)

/-- The number at the front of a text, and whether it is the whole text. -/
def number (s : Octets) : Option (Int × Bool) :=
  match s with
  | '\'' :: c :: _ | '"' :: c :: _ => some (c.toNat, true)
  | ['\''] | ['"'] => some (0, true)
  | _ =>
    let t := s.dropWhile Calculation.isSpace
    let (negative, t) :=
      match t with
      | '-' :: t => (true, t)
      | '+' :: t => (false, t)
      | t => (false, t)
    let (base, digits) :=
      match t with
      | '0' :: 'x' :: r | '0' :: 'X' :: r => (16, r)
      | '0' :: _ => (8, t)
      | _ => (10, t)
    let ds := digits.takeWhile fun c => Calculation.digitValue c < base
    if ds.isEmpty then none
    else
      let n : Int := ((Calculation.inBase? base ds).getD 0 : Nat)
      let limit : Int := Nat.pow 2 63
      let n := if negative then max (-n) (-limit) else min n (limit - 1)
      some (n, ds.length = digits.length)

/-- The number of an argument; a missing one counts nothing. -/
def numberOf (f : Filling) (a : Option Octets) : Int × Filling :=
  match a with
  | none => (0, f)
  | some s =>
    match number s with
    | some (n, true) => (n, f)
    | some (n, false) => (n, f.fault (s ++ ": not completely converted".toList))
    | none => (0, if s.isEmpty then f.fault (s ++ ": expected numeric value".toList)
        else f.fault (s ++ ": expected numeric value".toList))

/-- The digits of a number in a base. -/
def digits (base : Nat) (upper : Bool) (n : Nat) : Octets :=
  let ds := Nat.toDigits base n
  if upper then ds.map Char.toUpper else ds

/-- A directive is filled by the next argument. -/
def fill (d : Directive) (f : Filling) : Filling :=
  let (a, f) := f.take
  match d.letter with
  | 's' =>
    let s := a.getD []
    f.add (pad d ((d.precision.map s.take).getD s))
  | 'b' =>
    let (s, ended) := unescape 0 (a.getD [])
    { f.add (pad d ((d.precision.map s.take).getD s)) with isOver := ended }
  | 'c' => f.add (pad d ((a.getD []).take 1))
  | 'd' | 'i' =>
    let (n, f) := numberOf f a
    let sign : Octets :=
      if n < 0 then ['-'] else if d.flags.contains '+' then ['+']
      else if d.flags.contains ' ' then [' '] else []
    f.add (padNumber d sign (Text.ofNat n.natAbs))
  | c =>
    let (n, f) := numberOf f a
    let n := (n % Nat.pow 2 64).toNat
    let isAlternate := d.flags.contains '#' && n ≠ 0
    f.add <|
      if c = 'o' then padNumber d [] ((if isAlternate then ['0'] else []) ++ digits 8 false n)
      else if c = 'x' then padNumber d (if isAlternate then ['0', 'x'] else []) (digits 16 false n)
      else if c = 'X' then padNumber d (if isAlternate then ['0', 'X'] else []) (digits 16 true n)
      else padNumber d [] (Text.ofNat n)

/-- A width or precision at the front of a format, written out or left to an argument. -/
def measure (s : Octets) (f : Filling) : Option Nat × Octets × Filling :=
  match s with
  | '*' :: r =>
    let (a, f) := f.take
    let (n, f) := numberOf f a
    (some n.toNat, r, f)
  | _ =>
    let ds := s.takeWhile Char.isDigit
    ((String.ofList ds).toNat?, s.drop ds.length, f)

/-- The directive after a percent sign, what follows it, and the filling after its measures; nothing
if its letter means nothing. -/
def directive (s : Octets) (f : Filling) : Option (Directive × Octets) × Octets × Filling :=
  let flags := s.takeWhile fun c => "#-+ 0".toList.contains c
  let (width, r, f) := measure (s.drop flags.length) f
  let (precision, r, f) :=
    match r with
    | '.' :: r =>
      let (p, r, f) := measure r f
      (some (p.getD 0), r, f)
    | r => (none, r, f)
  match r with
  | c :: r' =>
    if "sbcdiouxX".toList.contains c then (some (⟨flags, width, precision, c⟩, r'), [], f)
    else (none, s.take (s.length - r'.length), f)
  | [] => (none, s, f)

/-- A format is filled once; `steps` bounds its length. -/
def fillOnce : (steps : Nat) → Octets → Filling → Filling
  | 0, _, f => f
  | n + 1, s, f =>
    if f.isOver then f
    else match s with
      | [] => f
      | '%' :: '%' :: r => fillOnce n r (f.add ['%'])
      | '%' :: r =>
        match directive r f with
        | (some (d, r), _, f) => fillOnce n r (fill d f)
        | (none, met, f) =>
          { f.fault ('%' :: met ++ ": invalid directive".toList) with isOver := true }
      | ['\\'] => f.add ['\\']
      | '\\' :: c :: r =>
        let (v, digits) := octal 3 (c :: r)
        if 0 < digits then fillOnce n ((c :: r).drop digits) (f.add [octet v])
        else match letter? c with
          | some k => fillOnce n r (f.add [k])
          | none => fillOnce n (c :: r) (f.add ['\\'])
      | c :: r =>
        let run := c :: r.takeWhile fun c => c ≠ '%' && c ≠ '\\'
        fillOnce n (s.drop run.length) (f.add run)

/-- A format is filled as often as there are arguments for it, and at least once. -/
def fillAll (format : Octets) : (rounds : Nat) → Filling → Filling
  | 0, f => f
  | n + 1, f =>
    let f := fillOnce (format.length + 1) format { f with hasTaken := false }
    if f.isOver || f.arguments.isEmpty || !f.hasTaken then f
    else fillAll format n f

/-- What `printf` writes, and what it could not do. -/
def printf (format : Octets) (arguments : List Octets) : Octets × List Octets :=
  let f := fillAll format (arguments.length + 1) { arguments }
  (f.text, f.faults)

end Format

end Shell

end NotebookEngine
