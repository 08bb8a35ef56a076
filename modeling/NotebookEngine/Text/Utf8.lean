import NotebookEngine.Text.Basic

/-!
# UTF-8

Octets and texts. `encode` writes a text in UTF-8. A reader takes octets one at a time and keeps
what it knows of a character begun (`Pending`); `marks` is the list of characters it meets, with
`none` for each maximal ill-formed part. `decode?` accepts well-formed octets only, and
`decodeLossy` puts U+FFFD for every ill-formed part.
-/

namespace NotebookEngine

/-- A sequence of octets. -/
abbrev Bytes := List UInt8

namespace Utf8

/-- The UTF-8 form of a text. -/
def encode (s : Text) : Bytes :=
  s.flatMap String.utf8EncodeChar

/-- A character begun: the bits seen so far, the number of octets still owed, and the bounds of
the next one. -/
structure Pending where
  bits : Nat
  owed : Nat
  low : Nat
  high : Nat
deriving DecidableEq, Repr

/-- What the first octet of a character says. -/
inductive Lead where
  | whole (c : Char)
  | begun (p : Pending)
  | broken
deriving DecidableEq

/-- The reading of a first octet. The second octet of a character is bounded so that neither a
longer form than needed, nor a surrogate, nor a value beyond U+10FFFF can be written. -/
def lead (b : UInt8) : Lead :=
  let n := b.toNat
  if n < 0x80 then .whole (Char.ofNat n)
  else if 0xC2 ≤ n && n ≤ 0xDF then .begun ⟨n - 0xC0, 1, 0x80, 0xBF⟩
  else if n = 0xE0 then .begun ⟨0, 2, 0xA0, 0xBF⟩
  else if n = 0xED then .begun ⟨0xD, 2, 0x80, 0x9F⟩
  else if 0xE1 ≤ n && n ≤ 0xEF then .begun ⟨n - 0xE0, 2, 0x80, 0xBF⟩
  else if n = 0xF0 then .begun ⟨0, 3, 0x90, 0xBF⟩
  else if n = 0xF4 then .begun ⟨4, 3, 0x80, 0x8F⟩
  else if 0xF1 ≤ n && n ≤ 0xF3 then .begun ⟨n - 0xF0, 3, 0x80, 0xBF⟩
  else .broken

/-- The reader between two octets: the characters met, last first, and the character begun. -/
structure Reader where
  met : List (Option Char) := []
  pending : Option Pending := none

/-- The reader after an octet that begins a character. -/
def Reader.first (met : List (Option Char)) (b : UInt8) : Reader :=
  match lead b with
  | .whole c => ⟨some c :: met, none⟩
  | .begun p => ⟨met, some p⟩
  | .broken => ⟨none :: met, none⟩

/-- The reader after one more octet. An octet that cannot go on the character begun ends an
ill-formed part and is read afresh. -/
def Reader.next (r : Reader) (b : UInt8) : Reader :=
  match r.pending with
  | none => Reader.first r.met b
  | some p =>
    let n := b.toNat
    if p.low ≤ n && n ≤ p.high then
      let bits := p.bits * 64 + (n - 0x80)
      if p.owed ≤ 1 then ⟨some (Char.ofNat bits) :: r.met, none⟩
      else ⟨r.met, some ⟨bits, p.owed - 1, 0x80, 0xBF⟩⟩
    else Reader.first (none :: r.met) b

/-- The characters a reader has met in order; a character begun and not ended is ill-formed. -/
def Reader.close (r : Reader) : List (Option Char) :=
  match r.pending with
  | none => r.met.reverse
  | some _ => (none :: r.met).reverse

/-- The characters of an octet sequence, with `none` for each maximal ill-formed part. -/
def marks (bs : Bytes) : List (Option Char) :=
  (bs.foldl Reader.next {}).close

/-- The text with U+FFFD for every maximal ill-formed part. -/
def decodeLossy (bs : Bytes) : Text :=
  (marks bs).map fun m => m.getD '\uFFFD'

/-- The text of well-formed octets. -/
def decode? (bs : Bytes) : Option Text :=
  (marks bs).mapM id

end Utf8

end NotebookEngine
