import NotebookEngine.Proofs.Json.Units

/-!
# String literals of scripts

A string literal of a script, between double quotes, stands for code units (`readString?`). The characters
stand for their own code units, an escape for the code units that it denotes, and the escape of a line end
for none; a line feed or a carriage return does not stand in a literal. The string of a text, as it stands
in a document, is a literal that stands for the text, whatever follows it (`readText?_string`).
-/

namespace NotebookEngine

namespace Script

/-! ### Reading -/

/-- The value and the length of a braced code point, the opening brace already read; `valued` once there is a
digit. -/
def bracedValue? : (valued : Bool) → (value length : Nat) → Text → Option (Nat × Nat)
  | _, _, _, [] => none
  | valued, value, length, c :: rest =>
    if c = '\x7d' then
      if valued && value < 0x110000 then some (value, length + 1) else none
    else match Text.hexValue? c with
      | some d => bracedValue? true (value * 16 + d) (length + 1) rest
      | none => none

/-- The code units of a code point, which may be half of a pair. -/
def unitsOfNat (n : Nat) : Json.Units :=
  if n < 0x10000 then [.ofNat n]
  else [.ofNat (0xD800 + (n - 0x10000) / 0x400), .ofNat (0xDC00 + (n - 0x10000) % 0x400)]

/-- The character ends a line of a script. -/
def isLineEnd (c : Char) : Bool :=
  c = '\n' || c = '\r' || c.toNat = 0x2028 || c.toNat = 0x2029

/-- The character that a letter after a backslash denotes, if it is not the letter itself. -/
def controlOf? : Char → Option Char
  | 'b' => some '\x08'
  | 't' => some '\t'
  | 'n' => some '\n'
  | 'v' => some '\x0b'
  | 'f' => some '\x0c'
  | 'r' => some '\r'
  | _ => none

/-- The code units that an escape denotes and its length, both after the backslash. The escapes by octal
digits, which a module does not have, are not read. -/
def escape? : Text → Option (Json.Units × Nat)
  | 'x' :: a :: b :: _ =>
    match Text.hexValue? a, Text.hexValue? b with
    | some m, some n => some ([.ofNat (m * 16 + n)], 3)
    | _, _ => none
  | 'u' :: '\x7b' :: rest =>
    (bracedValue? false 0 0 rest).map fun value => (unitsOfNat value.1, value.2 + 2)
  | 'u' :: a :: b :: c :: d :: _ =>
    (Json.hexValue4? a b c d).map fun n => ([.ofNat n], 5)
  | '\r' :: '\n' :: _ => some ([], 2)
  | '0' :: rest => if (rest.head?.map Char.isDigit).getD false then none else some ([0], 1)
  | c :: _ =>
    if isLineEnd c then some ([], 1)
    else if c = 'x' || c = 'u' || c.isDigit then none
    else some (Json.unitsOfChar ((controlOf? c).getD c), 1)
  | [] => none

/-- The code units of a string literal, and what follows it, the opening quote already read; `skip`
characters belong to an escape. -/
def readFrom? : (skip : Nat) → Text → Option (Json.Units × Text)
  | _, [] => none
  | skip + 1, _ :: rest => readFrom? skip rest
  | 0, c :: rest =>
    if c = '"' then some ([], rest)
    else if c = '\n' || c = '\r' then none
    else if c = '\\' then
      match escape? rest with
      | some (units, length) => (readFrom? length rest).map (Prod.map (units ++ ·) id)
      | none => none
    else (readFrom? 0 rest).map (Prod.map (Json.unitsOfChar c ++ ·) id)

/-- The code units of a string literal between double quotes, and what follows it. -/
def readString? : Text → Option (Json.Units × Text)
  | '"' :: rest => readFrom? 0 rest
  | _ => none

/-- The text that a string literal stands for, and what follows it, if the code units of the literal are
those of a text. -/
def readText? (s : Text) : Option (Text × Text) :=
  (readString? s).bind fun r => r.1.text?.map (·, r.2)

/-! ### Strings of texts -/

theorem readFrom?_skip (s rest : Text) :
  readFrom? s.length (s ++ rest) = readFrom? 0 rest
  := by
  induction s with
  | nil => rfl
  | cons c s ih => exact ih

/-- An escape is read as what it denotes. -/
theorem readFrom?_escape (escape : Text) {rest : Text} {units : Json.Units}
    (denotes : escape? (escape ++ rest) = some (units, escape.length)) :
  readFrom? 0 ('\\' :: (escape ++ rest)) = (readFrom? 0 rest).map (Prod.map (units ++ ·) id)
  := by
  have plain : '\\' ≠ '"' ∧ ('\\' = '\n' || '\\' = '\r') = false := by decide
  rw [readFrom?, if_neg plain.1, plain.2, if_neg Bool.false_ne_true, if_pos rfl, denotes]
  simp only [readFrom?_skip]

/-- A control character is read from its code unit. -/
theorem escape?_control {c : Char} (control : c.toNat < 0x20) (rest : Text) :
  escape? (['u', '0', '0', Text.hexDigit (c.toNat / 16), Text.hexDigit (c.toNat % 16)] ++ rest)
    = some (Json.unitsOfChar c, 5)
  := by
  have units : Json.unitsOfChar c = [.ofNat c.toNat] := if_pos (by omega)
  simp [escape?, Json.hexValue4?_control control, units]

theorem readFrom?_escapeChar (c : Char) (rest : Text) :
  readFrom? 0 (Json.escapeChar c ++ rest)
    = (readFrom? 0 rest).map (Prod.map (Json.unitsOfChar c ++ ·) id)
  := by
  by_cases quote : c = '"'
  · rw [quote]
    exact readFrom?_escape ['"'] rfl
  by_cases backslash : c = '\\'
  · rw [backslash]
    exact readFrom?_escape ['\\'] rfl
  by_cases backspace : c = '\x08'
  · rw [backspace]
    exact readFrom?_escape ['b'] rfl
  by_cases formFeed : c = '\x0c'
  · rw [formFeed]
    exact readFrom?_escape ['f'] rfl
  by_cases newline : c = '\n'
  · rw [newline]
    exact readFrom?_escape ['n'] rfl
  by_cases ret : c = '\r'
  · rw [ret]
    exact readFrom?_escape ['r'] rfl
  by_cases tab : c = '\t'
  · rw [tab]
    exact readFrom?_escape ['t'] rfl
  rw [Json.escapeChar, if_neg quote, if_neg backslash, if_neg backspace, if_neg formFeed, if_neg newline,
    if_neg ret, if_neg tab]
  split
  case isTrue control => exact readFrom?_escape _ (escape?_control control rest)
  case isFalse =>
    have plain : (c = '\n' || c = '\r') = false := by simp [newline, ret]
    rw [List.singleton_append, readFrom?, if_neg quote, plain, if_neg Bool.false_ne_true, if_neg backslash]

/-- The string of a text is read as the code units of the text, and the literal ends where it ends. -/
theorem readString?_string (s rest : Text) :
  readString? (Json.string s ++ rest) = some (Json.Units.ofText s, rest)
  := by
  have chars : readFrom? 0 (s.flatMap Json.escapeChar ++ '"' :: rest)
      = some (Json.Units.ofText s, rest) := by
    induction s with
    | nil => rfl
    | cons c s ih =>
        rw [List.flatMap_cons, List.append_assoc, readFrom?_escapeChar, ih]
        rfl
  rw [Json.string, List.append_assoc]
  exact chars

theorem readText?_string (s rest : Text) :
  readText? (Json.string s ++ rest) = some (s, rest)
  := by
  rw [readText?, readString?_string, Option.bind_some, Json.text?_ofText, Option.map_some]

example : readText? "\"\\x41\\u\x7b1f600\x7d\\ud83d\\ude00\\q\" + 1".toList
    = some ("A😀😀q".toList, " + 1".toList) := by
  decide +kernel

end Script

end NotebookEngine
