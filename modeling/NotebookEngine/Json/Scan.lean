import NotebookEngine.Json.Value

/-!
# Scanning JSON texts

The reading of a JSON text from left to right. A scanner (`Scan`) takes what it needs from the
front of a text and returns the rest, or stops with the cause and the place. `scanString`,
`scanNumber` and `scanValue` read one string, number or value; `skipValue` passes over a value
that nobody wants, to any depth; `nextElement?`, `nextKey?`, `endList` and `endObject` walk
through lists and objects.
-/

namespace NotebookEngine

namespace Json

/-- A cause and the number of octets that follow its place, if it has one. -/
structure Stop where
  cause : Cause
  unread : Option Nat

/-- A scanner of values of a type. -/
abbrev Scan (α : Type) := Text → Except Stop (α × Text)

/-- An error of form before the rest of the text. -/
def stopAt (f : Flaw) (rest : Text) : Stop :=
  ⟨.flaw f, some (octets rest)⟩

/-- An error of form after the next octet of the text. -/
def stopPast (f : Flaw) (rest : Text) : Stop :=
  ⟨.flaw f, some (octets rest - 1)⟩

/-- An error of meaning before the rest of the text. -/
def misfitAt (m : Misfit) (rest : Text) : Stop :=
  ⟨.misfit m, some (octets rest)⟩

/-- The stop with a place, for one that has none yet. -/
def Stop.placed (rest : Text) (s : Stop) : Stop :=
  match s.unread with
  | some _ => s
  | none => ⟨s.cause, some (octets rest)⟩

/-- Space, tab, line feed and carriage return may stand between any two parts of a JSON text. -/
def isGap (c : Char) : Bool :=
  c = ' ' || c = '\n' || c = '\t' || c = '\r'

/-- The text after the gap at its start. -/
def skipGap (s : Text) : Text :=
  s.dropWhile isGap

/-! ### Words and strings -/

/-- The rest after a word that must stand at the start of the text. -/
def scanWord : (word s : Text) → Except Stop Text
  | [], s => .ok s
  | _ :: _, [] => .error (stopAt .endInValue [])
  | a :: word, c :: s => if a = c then scanWord word s else .error (stopAt .wordExpected s)

/-- The value of four hexadecimal digits. -/
def hexValue4? (a b c d : Char) : Option Nat := do
  let a ← Text.hexValue? a
  let b ← Text.hexValue? b
  let c ← Text.hexValue? c
  let d ← Text.hexValue? d
  return ((a * 16 + b) * 16 + c) * 16 + d

/-- The code unit that four hexadecimal digits at the start of the text denote. -/
def scanHex (s : Text) : Except Stop (Nat × Text) :=
  match s with
  | a :: b :: c :: d :: rest =>
    match hexValue4? a b c d with
    | some n => .ok (n, rest)
    | none => .error ⟨.flaw .badEscape, some (octets s - 4)⟩
  | s =>
    if 4 ≤ octets s then .error ⟨.flaw .badEscape, some (octets s - 4)⟩
    else .error (stopAt .endInString [])

/-- The character of an escape by code units, after its `u`. A unit of the first half of a pair
must be followed by an escape with one of the second half. -/
def scanUnits (s : Text) : Except Stop (Char × Text) := do
  let (n, rest) ← scanHex s
  if 0xDC00 ≤ n && n ≤ 0xDFFF then throw (stopAt .loneSurrogate rest)
  if n < 0xD800 || 0xDBFF < n then return (Char.ofNat n, rest)
  match rest with
  | [] => throw (stopAt .endInString [])
  | '\\' :: 'u' :: rest =>
    let (m, rest) ← scanHex rest
    if m < 0xDC00 || 0xDFFF < m then throw (stopAt .loneSurrogate rest)
    return (Char.ofNat ((n - 0xD800) * 0x400 + (m - 0xDC00) + 0x10000), rest)
  | ['\\'] => throw (stopAt .endInString [])
  | '\\' :: rest => throw (stopPast .cutSurrogate rest)
  | rest => throw (stopPast .cutSurrogate rest)

/-- The character that a letter after a backslash denotes. -/
def escaped? : Char → Option Char
  | '"' => some '"'
  | '\\' => some '\\'
  | '/' => some '/'
  | 'b' => some '\x08'
  | 'f' => some '\x0c'
  | 'n' => some '\n'
  | 'r' => some '\r'
  | 't' => some '\t'
  | _ => none

/-- The character of an escape, after its backslash. -/
def scanEscape (s : Text) : Except Stop (Char × Text) :=
  match s with
  | [] => .error (stopAt .endInString [])
  | 'u' :: rest => scanUnits rest
  | c :: rest =>
    match escaped? c with
    | some d => .ok (d, rest)
    | none => .error (stopAt .badEscape rest)

/-- The characters up to the closing quote, after those already read, last first. -/
def scanStringFrom : (fuel : Nat) → (read : Text) → Scan Text
  | 0, _, _ => .error (stopAt .endInString [])
  | _ + 1, _, [] => .error (stopAt .endInString [])
  | fuel + 1, read, c :: rest =>
    if c = '"' then .ok (read.reverse, rest)
    else if c = '\\' then
      match scanEscape rest with
      | .ok (d, rest) => scanStringFrom fuel (d :: read) rest
      | .error e => .error e
    else if c.toNat < 0x20 then .error (stopAt .controlInString rest)
    else scanStringFrom fuel (c :: read) rest

/-- The string after its opening quote. -/
def scanString (s : Text) : Except Stop (Text × Text) :=
  scanStringFrom (s.length + 1) [] s

/-! ### Numbers -/

/-- The digits at the start of a text and the rest. -/
def spanDigits (s : Text) : Text × Text :=
  (s.takeWhile Char.isDigit, s.dropWhile Char.isDigit)

/-- The value of a digit. -/
def digitValue (c : Char) : Nat :=
  c.toNat - 48

/-- The largest unsigned integer of 64 bits. -/
def maxWord : Nat :=
  Nat.pow 2 64 - 1

/-- Digits taken into a significand as long as it fits 64 bits, with the number of those taken
and those that are left. -/
def takeDigits (significand : Nat) (taken : Nat) : Text → Nat × Nat × Text
  | [] => (significand, taken, [])
  | c :: ds =>
    if maxWord < significand * 10 + digitValue c then (significand, taken, c :: ds)
    else takeDigits (significand * 10 + digitValue c) (taken + 1) ds

/-- A double by its significand and decimal exponent: one conversion, then one multiplication or
division by a power of ten, or several where the power is out of range; `none` for an infinity. -/
def doubleOf (significand : Nat) (exponent : Int) : Option Float :=
  go 10 significand.toUInt64.toFloat exponent
where
  /-- The scaling; each round lessens the exponent by the largest power of ten there is. -/
  go : (fuel : Nat) → Float → Int → Option Float
    | 0, f, _ => some f
    | fuel + 1, f, e =>
      if e.natAbs ≤ 308 then
        let power := Float.ofScientific 1 false e.natAbs
        if 0 ≤ e then
          let g := f * power
          if g.isInf then none else some g
        else some (f / power)
      else if f == 0.0 then some f
      else if 0 ≤ e then none
      else go fuel (f / 1e308) (e + 308)

/-- A double with its sign. -/
def signed (positive : Bool) (f : Float) : Number :=
  .double (if positive then f else -f).toBits

/-- The number of a significand and exponent, before the rest of the text. -/
def scaled (positive : Bool) (significand : Nat) (exponent : Int) (rest : Text) :
    Except Stop (Number × Text) :=
  match doubleOf significand exponent with
  | some f => .ok (signed positive f, rest)
  | none => .error (stopAt .numberTooLarge rest)

/-- The largest exponent that is read. -/
def maxExponent : Nat :=
  Nat.pow 2 31 - 1

/-- Digits taken into an exponent as long as it fits; `none` when one more would not. -/
def takeExponent (exponent : Nat) : Text → Option Nat × Text
  | [] => (some exponent, [])
  | c :: ds =>
    if maxExponent < exponent * 10 + digitValue c then (none, ds)
    else takeExponent (exponent * 10 + digitValue c) ds

/-- The number whose exponent part begins at the text, after its `e`. -/
def scanExponent (positive : Bool) (significand : Nat) (start : Int) (s : Text) :
    Except Stop (Number × Text) :=
  let (up, s) := match s with
    | '+' :: r => (true, r)
    | '-' :: r => (false, r)
    | s => (true, s)
  match s with
  | [] => .error (stopAt .endInValue [])
  | c :: r =>
    if !c.isDigit then .error (stopAt .badNumber r)
    else
      let (ds, rest) := spanDigits r
      match takeExponent (digitValue c) ds with
      | (some e, _) => scaled positive significand (if up then start + e else start - e) rest
      | (none, left) =>
        if 0 < significand && up then .error (stopAt .numberTooLarge (left ++ rest))
        else .ok (signed positive 0.0, rest)

/-- The number whose fraction begins at the text, after its point. -/
def scanFraction (positive : Bool) (significand : Nat) (start : Int) (s : Text) :
    Except Stop (Number × Text) :=
  let (ds, rest) := spanDigits s
  let (significand, taken, left) := takeDigits significand 0 ds
  if taken = 0 && left.isEmpty then
    .error (stopPast (if rest.isEmpty then .endInValue else .badNumber) rest)
  else
    let exponent := start - taken
    match rest with
    | 'e' :: r => scanExponent positive significand exponent r
    | 'E' :: r => scanExponent positive significand exponent r
    | rest => scaled positive significand exponent rest

/-- The number of an integral significand that fits 64 bits. -/
def wholeNumber (positive : Bool) (significand : Nat) : Number :=
  if positive then .whole significand
  else if significand = 0 || Nat.pow 2 63 < significand then signed false significand.toUInt64.toFloat
  else .whole (-(significand : Int))

/-- The number after its sign. -/
def scanNumber (positive : Bool) (s : Text) : Except Stop (Number × Text) :=
  match s with
  | [] => .error (stopAt .endInValue [])
  | c :: r =>
    if !c.isDigit then .error (stopAt .badNumber r)
    else
      let (ds, rest) := spanDigits r
      if c = '0' && !ds.isEmpty then .error (stopPast .badNumber r)
      else
        let (significand, _, left) := takeDigits (digitValue c) 0 ds
        match rest with
        | '.' :: t => scanFraction positive significand left.length t
        | 'e' :: t => scanExponent positive significand left.length t
        | 'E' :: t => scanExponent positive significand left.length t
        | rest =>
          if left.isEmpty then .ok (wholeNumber positive significand, rest)
          else scaled positive significand left.length rest

/-! ### Lists and objects -/

/-- The text at the next element of a list, or nothing at the closing bracket. -/
def nextElement? (first : Bool) (s : Text) : Except Stop (Option Text) :=
  match skipGap s with
  | [] => .error (stopPast .endInList [])
  | ']' :: _ => .ok none
  | c :: r =>
    if first then .ok (some (c :: r))
    else if c = ',' then
      match skipGap r with
      | [] => .error (stopPast .endInValue [])
      | ']' :: r => .error (stopPast .trailingComma (']' :: r))
      | r => .ok (some r)
    else .error (stopPast .listCommaExpected (c :: r))

/-- The rest after the closing bracket of a list. -/
def endList (s : Text) : Except Stop Text :=
  match skipGap s with
  | [] => .error (stopPast .endInList [])
  | ']' :: r => .ok r
  | ',' :: r =>
    match skipGap r with
    | ']' :: r => .error (stopPast .trailingComma (']' :: r))
    | r => .error (stopPast .trailingText r)
  | r => .error (stopPast .trailingText r)

/-- The next name of an object with the rest after it, or nothing at the closing brace. -/
def nextKey? (first : Bool) (s : Text) : Except Stop (Option (Text × Text)) :=
  match skipGap s with
  | [] => .error (stopPast .endInObject [])
  | '\x7d' :: _ => .ok none
  | c :: r =>
    if first then
      if c = '"' then (scanString r).map some
      else .error (stopPast .keyExpected (c :: r))
    else if c = ',' then
      match skipGap r with
      | [] => .error (stopPast .endInValue [])
      | '"' :: r => (scanString r).map some
      | '\x7d' :: r => .error (stopPast .trailingComma ('\x7d' :: r))
      | r => .error (stopPast .keyExpected r)
    else .error (stopPast .objectCommaExpected (c :: r))

/-- The rest after the colon between a name and its value. -/
def scanColon (s : Text) : Except Stop Text :=
  match skipGap s with
  | [] => .error (stopPast .endInObject [])
  | ':' :: r => .ok r
  | r => .error (stopPast .colonExpected r)

/-- The rest after the closing brace of an object. -/
def endObject (s : Text) : Except Stop Text :=
  match skipGap s with
  | [] => .error (stopPast .endInObject [])
  | '\x7d' :: r => .ok r
  | ',' :: r => .error (stopPast .trailingComma (',' :: r))
  | r => .error (stopPast .trailingText r)

/-- The elements of a list up to its closing bracket, after those already read, last first. -/
def scanElements {α : Type} (item : Scan α) :
    (fuel : Nat) → (first : Bool) → (read : List α) → Scan (List α)
  | 0, _, _, s => .error (stopPast .endInList s)
  | fuel + 1, first, read, s =>
    match nextElement? first s with
    | .error e => .error e
    | .ok none => (endList s).map fun rest => (read.reverse, rest)
    | .ok (some s) =>
      match item s with
      | .error e => .error e
      | .ok (a, rest) => scanElements item fuel false (a :: read) rest

/-- The members of an object up to its closing brace, after those already read, last first. -/
def scanMembers {α : Type} (item : Scan α) :
    (fuel : Nat) → (first : Bool) → (read : List (Text × α)) → Scan (List (Text × α))
  | 0, _, _, s => .error (stopPast .endInObject s)
  | fuel + 1, first, read, s =>
    match nextKey? first s with
    | .error e => .error e
    | .ok none => (endObject s).map fun rest => (read.reverse, rest)
    | .ok (some (name, rest)) =>
      match scanColon rest >>= item with
      | .error e => .error e
      | .ok (a, rest) => scanMembers item fuel false ((name, a) :: read) rest

/-! ### Values -/

/-- One value; `depth` more brackets may open within each other. -/
def scanValue (depth : Nat) (s : Text) : Except Stop (Value × Text) :=
  match skipGap s with
  | [] => .error (stopPast .endInValue [])
  | 'n' :: r => (scanWord ['u', 'l', 'l'] r).map fun r => (.null, r)
  | 't' :: r => (scanWord ['r', 'u', 'e'] r).map fun r => (.boolean true, r)
  | 'f' :: r => (scanWord ['a', 'l', 's', 'e'] r).map fun r => (.boolean false, r)
  | '"' :: r => (scanString r).map fun p => (.text p.1, p.2)
  | '-' :: r => (scanNumber false r).map fun p => (.number p.1, p.2)
  | '[' :: r =>
    match depth with
    | 0 => .error (stopPast .tooDeep ('[' :: r))
    | depth + 1 =>
      (scanElements (scanValue depth) (r.length + 1) true [] r).map fun p => (.list p.1, p.2)
  | '\x7b' :: r =>
    match depth with
    | 0 => .error (stopPast .tooDeep ('\x7b' :: r))
    | depth + 1 =>
      (scanMembers (scanValue depth) (r.length + 1) true [] r).map fun p => (.object p.1, p.2)
  | c :: r =>
    if c.isDigit then (scanNumber true (c :: r)).map fun p => (.number p.1, p.2)
    else .error (stopPast .valueExpected (c :: r))

/-! ### Values nobody wants -/

/-- The rest after a string that is passed over, from its opening quote on. Escapes by code units
need four digits and nothing more. -/
def skipString : (fuel : Nat) → Text → Except Stop Text
  | 0, _ => .error (stopAt .endInString [])
  | _ + 1, [] => .error (stopAt .endInString [])
  | fuel + 1, c :: rest =>
    if c = '"' then .ok rest
    else if c = '\\' then
      match rest with
      | [] => .error (stopAt .endInString [])
      | 'u' :: rest =>
        match scanHex rest with
        | .ok (_, rest) => skipString fuel rest
        | .error e => .error e
      | d :: rest =>
        if (escaped? d).isSome then skipString fuel rest else .error (stopAt .badEscape rest)
    else if c.toNat < 0x20 then .error (stopAt .controlInString (c :: rest))
    else skipString fuel rest

/-- The rest after an exponent that is passed over, after its `e`. -/
def skipExponent (s : Text) : Except Stop Text :=
  let s := match s with
    | '+' :: r => r
    | '-' :: r => r
    | s => s
  match s with
  | [] => .error (stopAt .badNumber [])
  | c :: r => if c.isDigit then .ok (spanDigits r).2 else .error (stopAt .badNumber r)

/-- The rest after a number that is passed over, after its sign. -/
def skipNumber (s : Text) : Except Stop Text :=
  match s with
  | [] => .error (stopAt .badNumber [])
  | c :: r =>
    if !c.isDigit then .error (stopAt .badNumber r)
    else
      let (ds, rest) := spanDigits r
      if c = '0' && !ds.isEmpty then .error (stopPast .badNumber r)
      else match rest with
        | '.' :: t =>
          let (fs, rest) := spanDigits t
          if fs.isEmpty then .error (stopPast .badNumber rest)
          else match rest with
            | 'e' :: t => skipExponent t
            | 'E' :: t => skipExponent t
            | rest => .ok rest
        | 'e' :: t => skipExponent t
        | 'E' :: t => skipExponent t
        | rest => .ok rest

/-- A bracket that is open. -/
inductive Bracket where
  | list
  | object
deriving DecidableEq

/-- A value that is begun, or the text after a value within open brackets. -/
inductive SkipPoint where
  | value
  | after (comma : Bool)

/-- The name of a member that is passed over, with its colon. -/
def skipKey (s : Text) : Except Stop Text :=
  match skipGap s with
  | [] => .error (stopPast .endInObject [])
  | '"' :: r => skipString (r.length + 1) r >>= scanColon
  | r => .error (stopPast .keyExpected r)

/-- The rest after a value within open brackets, the innermost first. A comma is allowed only
after a value. -/
def skipFrom : (fuel : Nat) → SkipPoint → List Bracket → Text → Except Stop Text
  | 0, _, _, s => .error (stopPast .endInValue s)
  | _ + 1, .after _, [], s => .ok s
  | fuel + 1, .after comma, b :: bs, s =>
    let goOn (r : Text) : Except Stop Text :=
      match b with
      | .list => skipFrom fuel .value (b :: bs) r
      | .object =>
        match skipKey r with
        | .ok r => skipFrom fuel .value (b :: bs) r
        | .error e => .error e
    match skipGap s with
    | [] => .error (stopPast (if b = .list then .endInList else .endInObject) [])
    | c :: r =>
      if c = ',' && comma then goOn r
      else if (c = ']' && b = .list) || (c = '\x7d' && b = .object) then
        skipFrom fuel (.after true) bs r
      else if comma then
        .error (stopPast (if b = .list then .listCommaExpected else .objectCommaExpected) (c :: r))
      else goOn (c :: r)
  | fuel + 1, .value, bs, s =>
    let done (r : Except Stop Text) : Except Stop Text :=
      match r with
      | .ok r => skipFrom fuel (.after true) bs r
      | .error e => .error e
    match skipGap s with
    | [] => .error (stopPast .endInValue [])
    | 'n' :: r => done (scanWord ['u', 'l', 'l'] r)
    | 't' :: r => done (scanWord ['r', 'u', 'e'] r)
    | 'f' :: r => done (scanWord ['a', 'l', 's', 'e'] r)
    | '"' :: r => done (skipString (r.length + 1) r)
    | '-' :: r => done (skipNumber r)
    | '[' :: r => skipFrom fuel (.after false) (.list :: bs) r
    | '\x7b' :: r => skipFrom fuel (.after false) (.object :: bs) r
    | c :: r =>
      if c.isDigit then done (skipNumber (c :: r))
      else .error (stopPast .valueExpected (c :: r))

/-- The value is passed over when no bracket is open behind it. -/
theorem skipFrom_closed (fuel : Nat) (comma : Bool) (s : Text) :
  skipFrom (fuel + 1) (.after comma) [] s = .ok s
  := by
  rw [skipFrom]

/-- The rest after a value that is passed over. -/
def skipValue (s : Text) : Except Stop Text :=
  skipFrom (2 * s.length + 2) .value [] s

end Json

end NotebookEngine
