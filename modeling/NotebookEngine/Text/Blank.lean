import NotebookEngine.Text.Basic

/-!
# Blank characters and trimming

`isBlank` is the Unicode property White_Space. `trim`, `trimStart` and `trimEnd` take blank
characters from the ends of a text; `isBlankText` says that nothing else is there.
-/

namespace NotebookEngine

namespace Text

/-- The Unicode property White_Space. -/
def isBlank (c : Char) : Bool :=
  let n := c.toNat
  (9 ≤ n && n ≤ 13) || n = 0x20 || n = 0x85 || n = 0xA0 || n = 0x1680
    || (0x2000 ≤ n && n ≤ 0x200A) || n = 0x2028 || n = 0x2029 || n = 0x202F || n = 0x205F
    || n = 0x3000

/-- The text without the blank characters at its start. -/
def trimStart (s : Text) : Text :=
  s.dropWhile isBlank

/-- The text without the blank characters at its end. -/
def trimEnd (s : Text) : Text :=
  (s.reverse.dropWhile isBlank).reverse

/-- The text without the blank characters at its ends. -/
def trim (s : Text) : Text :=
  trimEnd (trimStart s)

/-- The blank characters at the start of the text. -/
def indent (s : Text) : Text :=
  s.takeWhile isBlank

/-- The text holds blank characters only. -/
def isBlankText (s : Text) : Bool :=
  s.all isBlank

/-- The first character of the text is blank. -/
def startsBlank : Text → Bool
  | [] => false
  | c :: _ => isBlank c

/-- The ASCII capitals become small letters; all else stays. -/
def lowerAscii (s : Text) : Text :=
  s.map fun c => if 'A' ≤ c && c ≤ 'Z' then Char.ofNat (c.toNat + 32) else c

theorem trimStart_indent (s : Text) :
  indent s ++ trimStart s = s
  := List.takeWhile_append_dropWhile

end Text

end NotebookEngine
