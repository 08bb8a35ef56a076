import NotebookEngine.Text.Basic

/-!
# Scanning a line of a compiled fragment

`scan` reads one line and gives the braces it opens less those it closes (`delta`) and the code
before a `//` comment (`code`). Strings and character literals are passed over; a quote that begins
no character literal, as in a lifetime, stands for itself. A string ends with its line.
-/

namespace NotebookEngine

namespace Fragment

/-- What a line holds: its net braces and its code before a comment. The braces are counted without a
bound, which agrees with a count in 32 bits with a sign on lines of fewer than `2 ^ 31` braces. -/
structure Scan where
  delta : Int
  code : Text
deriving DecidableEq, Repr

/-- The scan with one more character at the front of its code. -/
def Scan.after (c : Char) (s : Scan) : Scan :=
  ⟨s.delta, c :: s.code⟩

/-- The scan with one more character and brace at the front of its code. -/
def Scan.afterBrace (c : Char) (depth : Int) (s : Scan) : Scan :=
  ⟨depth + s.delta, c :: s.code⟩

/-- The length of a character literal, given what follows its opening quote, without that quote;
zero when there is none. An escape runs to the next quote after the escaped character. -/
def charLiteralLength : Text → Nat
  | '\\' :: _ :: rest => if rest.contains '\'' then rest.idxOf '\'' + 3 else 0
  | ['\\'] => 0
  | _ :: '\'' :: _ => 2
  | _ => 0

/-- The scan of a line, within a string or not, of which `skip` characters stand for
themselves. -/
def scanFrom : (inString : Bool) → (skip : Nat) → Text → Scan
  | _, _, [] => ⟨0, []⟩
  | inString, skip + 1, c :: rest => (scanFrom inString skip rest).after c
  | true, 0, c :: rest =>
    if c = '\\' then (scanFrom true 1 rest).after c
    else (scanFrom (c ≠ '"') 0 rest).after c
  | false, 0, c :: rest =>
    if c = '"' then (scanFrom true 0 rest).after c
    else if c = '\'' then (scanFrom false (charLiteralLength rest) rest).after c
    else if c = '/' && rest.head? = some '/' then ⟨0, []⟩
    else if c = '\x7b' then (scanFrom false 0 rest).afterBrace c 1
    else if c = '\x7d' then (scanFrom false 0 rest).afterBrace c (-1)
    else (scanFrom false 0 rest).after c

theorem scanFrom_quote (rest : Text) :
  scanFrom false 0 ('\'' :: rest) = (scanFrom false (charLiteralLength rest) rest).after '\''
  := by
  rw [scanFrom, if_neg (by decide), if_pos rfl]

/-- The net braces of a line and its code before a comment. -/
def scan (line : Text) : Scan :=
  scanFrom false 0 line

end Fragment

end NotebookEngine
