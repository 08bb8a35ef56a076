import NotebookEngine.Json.Value

/-!
# Printing JSON

`compact` writes a value without gaps; `pretty` writes each element and each member on a line of
its own, two spaces further in than the bracket around it. Quotes, backslashes and control
characters of a text are escaped, by a letter where there is one; all else stands as it is.
-/

namespace NotebookEngine

namespace Json

/-- A character as it stands in a string. -/
def escapeChar (c : Char) : Text :=
  if c = '"' then ['\\', '"']
  else if c = '\\' then ['\\', '\\']
  else if c = '\x08' then ['\\', 'b']
  else if c = '\x0c' then ['\\', 'f']
  else if c = '\n' then ['\\', 'n']
  else if c = '\r' then ['\\', 'r']
  else if c = '\t' then ['\\', 't']
  else if c.toNat < 0x20 then
    ['\\', 'u', '0', '0', Text.hexDigit (c.toNat / 16), Text.hexDigit (c.toNat % 16)]
  else [c]

/-- The string of a text. -/
def string (s : Text) : Text :=
  '"' :: s.flatMap escapeChar ++ ['"']

/-- No character stands in a string as a line feed. -/
theorem newline_notMem_escapeChar (c : Char) :
  '\n' ∉ escapeChar c
  := by
  by_cases control : c.toNat < 0x20
  case pos =>
    have all : ∀ n < 0x20, '\n' ∉ escapeChar (Char.ofNat n) := by decide
    rw [← Char.ofNat_toNat c]
    apply all _ control
  case neg =>
    have other : '\n' ≠ c := by
      rintro rfl
      apply control
      decide
    unfold escapeChar
    repeat' split
    all_goals simp_all

/-- The string of a text is one line. -/
theorem newline_notMem_string (s : Text) :
  '\n' ∉ string s
  := by
  simp [string, newline_notMem_escapeChar]

/-- The written form of a number. -/
def Number.render : Number → Text
  | .whole n => Text.ofInt n
  | .double b => renderDouble b

/-- The written form of a truth value. -/
def renderBool (b : Bool) : Text :=
  if b then "true".toList else "false".toList

mutual

/-- The value without gaps. -/
def Value.compact : Value → Text
  | .null => "null".toList
  | .boolean b => renderBool b
  | .number n => n.render
  | .text s => string s
  | .list vs => '[' :: Value.compactElements vs ++ [']']
  | .object ms => '\x7b' :: Value.compactMembers ms ++ ['\x7d']

/-- The elements with commas between them. -/
def Value.compactElements : List Value → Text
  | [] => []
  | [v] => v.compact
  | v :: w :: vs => v.compact ++ ',' :: Value.compactElements (w :: vs)

/-- The members with commas between them. -/
def Value.compactMembers : List (Text × Value) → Text
  | [] => []
  | [(name, v)] => string name ++ ':' :: v.compact
  | (name, v) :: m :: ms => string name ++ ':' :: v.compact ++ ',' :: Value.compactMembers (m :: ms)

end

/-- A line feed and the gap before what stands at a depth. -/
def newLine (depth : Nat) : Text :=
  '\n' :: List.replicate (2 * depth) ' '

mutual

/-- The value over several lines, for a line that begins at a depth. -/
def Value.prettyAt (depth : Nat) : Value → Text
  | .null => "null".toList
  | .boolean b => renderBool b
  | .number n => n.render
  | .text s => string s
  | .list [] => "[]".toList
  | .list (v :: vs) =>
    '[' :: newLine (depth + 1) ++ Value.prettyElements (depth + 1) (v :: vs) ++ newLine depth
      ++ [']']
  | .object [] => ['\x7b', '\x7d']
  | .object (m :: ms) =>
    '\x7b' :: newLine (depth + 1) ++ Value.prettyMembers (depth + 1) (m :: ms) ++ newLine depth
      ++ ['\x7d']

/-- The elements, each on its line. -/
def Value.prettyElements (depth : Nat) : List Value → Text
  | [] => []
  | [v] => v.prettyAt depth
  | v :: w :: vs =>
    v.prettyAt depth ++ ',' :: newLine depth ++ Value.prettyElements depth (w :: vs)

/-- The members, each on its line. -/
def Value.prettyMembers (depth : Nat) : List (Text × Value) → Text
  | [] => []
  | [(name, v)] => string name ++ [':', ' '] ++ v.prettyAt depth
  | (name, v) :: m :: ms =>
    string name ++ [':', ' '] ++ v.prettyAt depth ++ ',' :: newLine depth
      ++ Value.prettyMembers depth (m :: ms)

end

/-- The value over several lines. -/
def Value.pretty (v : Value) : Text :=
  v.prettyAt 0

end Json

end NotebookEngine
