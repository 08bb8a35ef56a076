import NotebookEngine.Text.Basic
import NotebookEngine.Text.Unprintable

/-!
# Quoted texts

A quoted text stands between double quotes. A quote and a backslash are written with a backslash
before them, so are the tab, the line feed, the carriage return and the null character, by a
letter or the digit zero; an unprintable character is written by its code point in hexadecimal
between braces. `quote` writes this form, `unquote?` reads it.
-/

namespace NotebookEngine

namespace Text

/-- The hexadecimal digit of a number below sixteen. -/
def hexDigit (n : Nat) : Char :=
  if n < 10 then Char.ofNat (48 + n) else Char.ofNat (87 + n)

/-- The value of a hexadecimal digit, of either case. -/
def hexValue? (c : Char) : Option Nat :=
  if '0' ≤ c && c ≤ '9' then some (c.toNat - 48)
  else if 'a' ≤ c && c ≤ 'f' then some (c.toNat - 87)
  else if 'A' ≤ c && c ≤ 'F' then some (c.toNat - 55)
  else none

/-- The hexadecimal digits of a number, without leading zeros. -/
def hexDigits (n : Nat) : Text :=
  (Nat.toDigits 16 n)

/-- A character as it stands between the quotes. -/
def quoteChar (c : Char) : Text :=
  if c = '"' then ['\\', '"']
  else if c = '\\' then ['\\', '\\']
  else if c = '\n' then ['\\', 'n']
  else if c = '\r' then ['\\', 'r']
  else if c = '\t' then ['\\', 't']
  else if c = Char.ofNat 0 then ['\\', '0']
  else if isUnprintable c then ['\\', 'u', '\x7b'] ++ hexDigits c.toNat ++ ['\x7d']
  else [c]

/-- The quoted form of a text. -/
def quote (s : Text) : Text :=
  '"' :: s.flatMap quoteChar ++ ['"']

end Text

end NotebookEngine
