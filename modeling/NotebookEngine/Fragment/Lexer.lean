import NotebookEngine.Fragment.Token
import NotebookEngine.Text.Blank
import NotebookEngine.Text.Identifier
import NotebookEngine.Text.Quoted

/-!
# Reading the tokens of a compiled fragment

`tokens?` cuts a text into tokens, or gives none when a literal or comment is not ended, a
character stands where it cannot, or the brackets do not match. Plain comments are blank; a
documentation comment reads as the attribute it stands for.
-/

namespace NotebookEngine

namespace Fragment

namespace Lexer

/-! ### Blanks and comments -/

/-- A character between tokens: a blank or a direction mark. -/
def isBlank (c : Char) : Bool :=
  Text.isBlank c || c.toNat = 0x200E || c.toNat = 0x200F

/-- What follows a block comment of which `depth` openings are still to be closed. -/
def afterBlock? : (depth : Nat) → Text → Option Text
  | _, [] => none
  | depth, '/' :: '*' :: rest => afterBlock? (depth + 1) rest
  | depth, '*' :: '/' :: rest => if depth ≤ 1 then some rest else afterBlock? (depth - 1) rest
  | depth, _ :: rest => afterBlock? depth rest

/-- A line up to its end, and what follows with the end. -/
def cutLine : Text → Text × Text
  | [] => ([], [])
  | '\n' :: rest => ([], '\n' :: rest)
  | '\r' :: '\n' :: rest => ([], '\n' :: rest)
  | c :: rest => let (line, after) := cutLine rest; (c :: line, after)

/-- What precedes the end of a text in a longer one. -/
def before (after whole : Text) : Text :=
  whole.take (whole.length - after.length)

/-- Every carriage return stands before a line feed. -/
def hasNoLoneReturn : Text → Bool
  | [] => true
  | '\r' :: '\n' :: rest => hasNoLoneReturn rest
  | c :: rest => c ≠ '\r' && hasNoLoneReturn rest

/-- The attribute that a documentation comment stands for. -/
def docAttribute (inner : Bool) : List Token :=
  [.mark '#' false] ++ (if inner then [.mark '!' false] else [])
    ++ [.opening .square, .word false "doc".toList, .mark '=' false, .literal .string,
      .closing .square]

/-- What a text that begins with a slash begins with: a comment and what follows it, a broken
comment, or no comment. -/
inductive Slash where
  | comment (rest : Text)
  | documentation (inner : Bool) (rest : Text)
  | broken
  | mark
deriving DecidableEq, Repr

/-- A documentation comment that goes on over `lines`, if no carriage return in it is alone. -/
def documentation (inner : Bool) (lines rest : Text) : Slash :=
  if hasNoLoneReturn lines then .documentation inner rest else .broken

/-- A block comment, of which the text after its opening is given. -/
def block (asDocumentation : Option Bool) (body : Text) : Slash :=
  match afterBlock? 1 body, asDocumentation with
  | none, _ => .broken
  | some rest, none => .comment rest
  | some rest, some inner => documentation inner (before rest body) rest

/-- The reading of a text that begins with a slash. -/
def slash (s : Text) : Slash :=
  match s with
  | '/' :: '/' :: '/' :: '/' :: rest => .comment (cutLine rest).2
  | '/' :: '/' :: '/' :: rest => documentation false (cutLine rest).1 (cutLine rest).2
  | '/' :: '/' :: '!' :: rest => documentation true (cutLine rest).1 (cutLine rest).2
  | '/' :: '/' :: rest => .comment (cutLine rest).2
  | '/' :: '*' :: '*' :: '/' :: rest => .comment rest
  | '/' :: '*' :: '*' :: '*' :: rest => block none ('*' :: '*' :: rest)
  | '/' :: '*' :: '*' :: rest => block (some false) ('*' :: rest)
  | '/' :: '*' :: '!' :: rest => block (some true) ('!' :: rest)
  | '/' :: '*' :: rest => block none rest
  | _ => .mark

/-! ### Words -/

/-- The character begins a word. -/
def startsWord (c : Char) : Bool :=
  c = '_' || Text.isIdentifierStart c

/-- A word at the start of a text, with what follows it. -/
def word? : Text → Option (Text × Text)
  | [] => none
  | c :: rest =>
    if startsWord c then
      some (c :: rest.takeWhile Text.isIdentifierContinue, rest.dropWhile Text.isIdentifierContinue)
    else none

/-- Words that are no raw words. -/
def neverRaw : List Text :=
  ["_", "super", "self", "Self", "crate"].map String.toList

/-- A word or a raw word, with what follows it. -/
def anyWord? : Text → Option (Token × Text)
  | 'r' :: '#' :: rest =>
    match word? rest with
    | some (name, rest) => if neverRaw.contains name then none else some (.word true name, rest)
    | none => none
  | s => (word? s).map fun w => (.word false w.1, w.2)

/-- Starts of literals; a word may not begin with one. -/
def literalStarts : List Text :=
  ["r\"", "r#\"", "r##", "b\"", "b'", "br\"", "br#", "c\"", "cr\"", "cr#"].map String.toList

/-- What follows the suffix of a literal. -/
def afterSuffix (s : Text) : Text :=
  match word? s with
  | some (_, rest) => rest
  | none => s

/-! ### Quoted literals -/

/-- The kinds of string literals. -/
inductive Flavour where
  | text
  | octets
  | terminated
deriving DecidableEq, Repr

/-- The character may stand in a string literal. -/
def Flavour.allows : Flavour → Char → Bool
  | .text, _ => true
  | .octets, c => c.toNat < 0x80
  | .terminated, c => c.toNat ≠ 0

/-- The value and the length of a braced code point, the opening brace already read. -/
def codePoint? : (digits value length : Nat) → Text → Option (Nat × Nat)
  | _, _, _, [] => none
  | digits, value, length, c :: rest =>
    if c = '_' && 0 < digits then codePoint? digits value (length + 1) rest
    else if c = '\x7d' && 0 < digits then some (value, length + 1)
    else match Text.hexValue? c with
      | some d =>
        if digits = 6 then none else codePoint? (digits + 1) (value * 16 + d) (length + 1) rest
      | none => none

/-- The number is a Unicode scalar value. -/
def isScalar (n : Nat) : Bool :=
  n < 0xD800 || (0xE000 ≤ n && n < 0x110000)

/-- The length of the blanks after an escaped end of line; `returned` after a carriage return. -/
def continuation? : (returned : Bool) → Text → Option Nat
  | _, [] => none
  | true, c :: rest => if c = '\n' then (continuation? false rest).map (· + 1) else none
  | false, c :: rest =>
    if c = ' ' || c = '\t' || c = '\n' then (continuation? false rest).map (· + 1)
    else if c = '\r' then (continuation? true rest).map (· + 1)
    else some 0

/-- The length of an escape after its backslash, where the escape of a line end is allowed or
not. -/
def escapeLength? (f : Flavour) (overLines : Bool) : Text → Option Nat
  | 'x' :: a :: b :: _ =>
    match Text.hexValue? a, Text.hexValue? b with
    | some m, some n =>
      match f with
      | .text => if m < 8 then some 3 else none
      | .octets => some 3
      | .terminated => if m = 0 && n = 0 then none else some 3
    | _, _ => none
  | 'u' :: '\x7b' :: rest =>
    match codePoint? 0 0 0 rest with
    | some (n, length) =>
      if f = .octets || !isScalar n || (f = .terminated && n = 0) then none
      else some (length + 2)
    | none => none
  | '\n' :: rest => if overLines then (continuation? false rest).map (· + 1) else none
  | '\r' :: rest => if overLines then (continuation? true rest).map (· + 1) else none
  | '0' :: _ => if f = .terminated then none else some 1
  | c :: _ => if "nrt\\'\"".toList.contains c then some 1 else none
  | [] => none

/-- What follows a string literal, the opening quote already read; `skip` characters stand for
themselves. -/
def afterString? (f : Flavour) : (skip : Nat) → Text → Option Text
  | _, [] => none
  | skip + 1, _ :: rest => afterString? f skip rest
  | 0, c :: rest =>
    if c = '"' then some (afterSuffix rest)
    else if c = '\r' then
      if rest.head? = some '\n' then afterString? f 1 rest else none
    else if c = '\\' then
      match escapeLength? f true rest with
      | some length => afterString? f length rest
      | none => none
    else if f.allows c then afterString? f 0 rest
    else none

/-- What follows a raw string literal that ends with a quote and so many number signs. -/
def afterRaw? (f : Flavour) (signs : Nat) : Text → Option Text
  | [] => none
  | c :: rest =>
    if c = '"' && (List.replicate signs '#').isPrefixOf rest then
      some (afterSuffix (rest.drop signs))
    else if c = '\r' && rest.head? ≠ some '\n' then none
    else if f.allows c then afterRaw? f signs rest
    else none

/-- What follows a raw string literal, from the number signs before its quote. -/
def rawString? (f : Flavour) (s : Text) : Option Text :=
  let signs := (s.takeWhile (· = '#')).length
  match s.drop signs with
  | '"' :: rest => if signs ≤ 255 then afterRaw? f signs rest else none
  | _ => none

/-- What follows a quoted character, the opening quote already read. -/
def afterCharacter? (f : Flavour) : Text → Option Text
  | '\\' :: rest =>
    match escapeLength? f false rest with
    | some length =>
      match rest.drop length with
      | '\'' :: rest => some (afterSuffix rest)
      | _ => none
    | none => none
  | c :: '\'' :: rest => if f = .octets && 0x80 ≤ c.toNat then none else some (afterSuffix rest)
  | _ => none

/-! ### Numbers -/

/-- The character is a decimal digit. -/
def isDigit (c : Char) : Bool :=
  '0' ≤ c && c ≤ '9'

/-- A number may not run into a word. -/
def wordBreak? (s : Text) : Option Text :=
  match s with
  | [] => some s
  | c :: _ => if Text.isIdentifierContinue c then none else some s

/-- What follows the suffix of a number, which ends at a break. -/
def afterNumber? (s : Text) : Option Text :=
  wordBreak? (afterSuffix s)

/-- What follows an exponent after its letter, if it has a digit: one sign may stand before the
digits. -/
def afterExponent? : (signed valued : Bool) → Text → Option Text
  | _, valued, [] => if valued then some [] else none
  | signed, valued, c :: rest =>
    if c = '+' || c = '-' then
      if valued then some (c :: rest)
      else if signed then none
      else afterExponent? true false rest
    else if isDigit c then afterExponent? signed true rest
    else if c = '_' then afterExponent? signed valued rest
    else if valued then some (c :: rest)
    else none

/-- What follows the digits of a number with a point or an exponent; `point` once the point is
read. An exponent without digits is a suffix if there is a point before it. -/
def afterFloatDigits? : (point : Bool) → Text → Option Text
  | point, [] => if point then some [] else none
  | point, c :: rest =>
    if isDigit c || c = '_' then afterFloatDigits? point rest
    else if c = '.' && !point then
      match rest with
      | [] => some []
      | d :: _ => if d = '.' || startsWord d then none else afterFloatDigits? true rest
    else if c = 'e' || c = 'E' then
      match afterExponent? false false rest with
      | some rest => some rest
      | none => if point then some (c :: rest) else none
    else if point then some (c :: rest)
    else none

/-- The digits of an integer in a base, with what follows them. The underscores are left out; one
may stand first only after the mark of a base. -/
def digits? (base : Nat) : Text → Option (List Nat × Text)
  | [] => some ([], [])
  | c :: rest =>
    if c = '_' then digits? base rest
    else match Text.hexValue? c with
      | some d =>
        if d < base then (digits? base rest).map fun r => (d :: r.1, r.2)
        else if isDigit c then none
        else some ([], c :: rest)
      | none => some ([], c :: rest)

/-- An integer: its digits, its base and what follows it. -/
def integer? (s : Text) : Option (List Nat × Nat × Text) :=
  let (base, body) : Nat × Text := match s with
    | '0' :: 'x' :: rest => (16, rest)
    | '0' :: 'o' :: rest => (8, rest)
    | '0' :: 'b' :: rest => (2, rest)
    | _ => (10, s)
  if base = 10 && body.head? = some '_' then none
  else match digits? base body with
    | some ([], _) => none
    | some (ds, rest) => some (ds, base, rest)
    | none => none

/-- The integer of these digits fits 32 bits. -/
def fitsIndex (base : Nat) (ds : List Nat) : Bool :=
  ds.foldl (fun n d => n * base + d) 0 < Nat.pow 2 32

/-- The text is one integer without suffix that fits 32 bits. -/
def isIndex (s : Text) : Bool :=
  match integer? s with
  | some (ds, base, []) => fitsIndex base ds
  | _ => false

/-- The literal of a number with a point. -/
def floating (written : Text) : Literal :=
  let open? := written.getLast? = some '.'
  let parts := Text.pieces '.' (if open? then written.dropLast else written)
  .floating (parts.all isIndex) open?

/-- A number, with what follows it. -/
def number? (s : Text) : Option (Literal × Text) :=
  if (s.head?.map isDigit).getD false then
    match (afterFloatDigits? false s).bind afterNumber? with
    | some rest => some (floating (before rest s), rest)
    | none =>
      match integer? s with
      | some (ds, base, after) =>
        (afterNumber? after).map fun rest =>
          (.integer (after.length = rest.length && fitsIndex base ds), rest)
      | none => none
  else none

/-- A literal, with what follows it. -/
def literal? (s : Text) : Option (Literal × Text) :=
  let quoted : Option (Literal × Text) := match s with
    | '"' :: rest => (afterString? .text 0 rest).map (.string, ·)
    | 'r' :: rest => (rawString? .text rest).map (.string, ·)
    | 'b' :: '"' :: rest => (afterString? .octets 0 rest).map (.other, ·)
    | 'b' :: 'r' :: rest => (rawString? .octets rest).map (.other, ·)
    | 'b' :: '\'' :: rest => (afterCharacter? .octets rest).map (.other, ·)
    | 'c' :: '"' :: rest => (afterString? .terminated 0 rest).map (.other, ·)
    | 'c' :: 'r' :: rest => (rawString? .terminated rest).map (.other, ·)
    | '\'' :: rest => (afterCharacter? .text rest).map (.other, ·)
    | _ => none
  match quoted with
  | some r => some r
  | none => number? s

/-! ### Marks -/

/-- The punctuation marks. -/
def marks : Text :=
  "~!@#$%^&*-=+|;:,<.>/?'".toList

/-- A text begins with a punctuation mark, and not with a comment. -/
def startsMark : Text → Bool
  | '/' :: '/' :: _ => false
  | '/' :: '*' :: _ => false
  | c :: _ => marks.contains c
  | [] => false

/-- A punctuation mark, with what follows it. A quote must begin a lifetime. -/
def mark? (s : Text) : Option (Token × Text) :=
  match s with
  | [] => none
  | '\'' :: rest =>
    match anyWord? rest with
    | some (_, after) =>
      if after.head? = some '\''
          || (after.head? = some '#' && !Text.startsWith rest ['r', '#']) then none
      else some (.mark '\'' true, rest)
    | none => none
  | c :: rest => if startsMark s then some (.mark c (startsMark rest), rest) else none

/-- A word, with what follows it, where no literal can begin. -/
def plainWord? (s : Text) : Option (Token × Text) :=
  if literalStarts.any (Text.startsWith s) then none else anyWord? s

/-- A token without brackets, with what follows it. -/
def leaf? (s : Text) : Option (Token × Text) :=
  match literal? s with
  | some (l, rest) => some (.literal l, rest)
  | none =>
    match mark? s with
    | some r => some r
    | none => plainWord? s

/-! ### The whole text -/

/-- The tokens of a text within the brackets `opened`, the innermost first, read with so much
fuel; `met` are the tokens before it, the last one first. -/
def read : (fuel : Nat) → (opened : List Bracket) → (met : List Token) → Text → Option (List Token)
  | 0, _, _, _ => none
  | _ + 1, opened, met, [] => if opened.isEmpty then some met.reverse else none
  | fuel + 1, opened, met, c :: rest =>
    let s := c :: rest
    if isBlank c then read fuel opened met rest
    else match slash s with
      | .comment rest => read fuel opened met rest
      | .documentation inner rest => read fuel opened ((docAttribute inner).reverse ++ met) rest
      | .broken => none
      | .mark =>
        match Bracket.ofOpening? c, Bracket.ofClosing? c with
        | some b, _ => read fuel (b :: opened) (.opening b :: met) rest
        | none, some b =>
          if opened.head? = some b then read fuel opened.tail (.closing b :: met) rest else none
        | none, none =>
          match leaf? s with
          | some (t, rest) => read fuel opened (t :: met) rest
          | none => none

end Lexer

/-- The tokens of a text. Each takes at least one character, so the length of the text is fuel
enough. -/
def tokens? (s : Text) : Option (List Token) :=
  Lexer.read (s.length + 1) [] [] s

end Fragment

end NotebookEngine
