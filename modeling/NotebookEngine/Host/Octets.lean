import NotebookEngine.Text.Utf8

/-!
# Octet strings

Files, pipes and the arguments of processes hold octets. An octet string is written as the list of
the characters whose numbers are its octets, so that programs on the host can compare with
characters. A text enters the host by its UTF-8 form (`Octets.ofText`).
-/

namespace NotebookEngine

namespace Host

/-- A string of octets, each written as the character of its number. -/
abbrev Octets := List Char

namespace Octets

/-- The octet string of a sequence of octets. -/
def ofBytes (bytes : Bytes) : Octets :=
  bytes.map fun b => Char.ofNat b.toNat

/-- The octets of an octet string. -/
def toBytes (s : Octets) : Bytes :=
  s.map fun c => UInt8.ofNat c.toNat

/-- The UTF-8 form of a text. -/
def ofText (s : Text) : Octets :=
  ofBytes (Utf8.encode s)

/-- The text of which the octets are the UTF-8 form. -/
def toText? (s : Octets) : Option Text :=
  Utf8.decode? (toBytes s)

/-- The octets as text, with U+FFFD for what is not UTF-8. -/
def toText (s : Octets) : Text :=
  Utf8.decodeLossy (toBytes s)

/-- Octet strings are ordered by their first difference. -/
def precedes : (s t : Octets) → Bool
  | [], _ => true
  | _ :: _, [] => false
  | a :: s, b :: t => a < b || (a = b && precedes s t)

/-- The octet strings in order. -/
def sort (ss : List Octets) : List Octets :=
  ss.mergeSort precedes

end Octets

end Host

end NotebookEngine
