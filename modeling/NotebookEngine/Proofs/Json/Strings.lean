import Mathlib.Tactic.Common
import NotebookEngine.Json.Printer
import NotebookEngine.Json.Scan

/-!
# Strings

A string that is printed is read back, whatever characters it holds (`scanString_string`), and it
shows none of the control characters (`visible_string`).
-/

namespace NotebookEngine

namespace Json

theorem hexValue?_hexDigit {n : Nat} (small : n < 16) :
  Text.hexValue? (Text.hexDigit n) = some n
  := by
  have all : ∀ n < 16, Text.hexValue? (Text.hexDigit n) = some n := by decide
  apply all n small

/-- The digits of a control character denote it. -/
theorem hexValue4?_control {c : Char} (control : c.toNat < 0x20) :
  hexValue4? '0' '0' (Text.hexDigit (c.toNat / 16)) (Text.hexDigit (c.toNat % 16)) = some c.toNat
  := by
  have zero : Text.hexValue? '0' = some 0 := rfl
  have value : ((0 * 16 + 0) * 16 + c.toNat / 16) * 16 + c.toNat % 16 = c.toNat := by omega
  simp only [hexValue4?, zero, hexValue?_hexDigit (show c.toNat / 16 < 16 by omega),
    hexValue?_hexDigit (show c.toNat % 16 < 16 by omega), bind, Option.bind, pure, value]

/-- The escape by code unit of a control character denotes it. -/
theorem scanUnits_control {c : Char} (control : c.toNat < 0x20) (rest : Text) :
  scanUnits ('0' :: '0' :: Text.hexDigit (c.toNat / 16) :: Text.hexDigit (c.toNat % 16) :: rest)
    = .ok (c, rest)
  := by
  have scanned : scanHex ('0' :: '0' :: Text.hexDigit (c.toNat / 16)
      :: Text.hexDigit (c.toNat % 16) :: rest) = .ok (c.toNat, rest) := by
    simp only [scanHex, hexValue4?_control control]
  have low : ¬(0xDC00 ≤ c.toNat ∧ c.toNat ≤ 0xDFFF) := by omega
  have first : c.toNat < 0xD800 ∨ 0xDBFF < c.toNat := by omega
  simp [scanUnits, scanned, bind, Except.bind, pure, Except.pure, low, first]

/-- A character is read from the form in which it stands in a string. -/
theorem scanStringFrom_escapeChar (fuel : Nat) (read : Text) (c : Char) (rest : Text) :
  scanStringFrom (fuel + 1) read (escapeChar c ++ rest) = scanStringFrom fuel (c :: read) rest
  := by
  unfold escapeChar
  split
  case isTrue h => subst h; rfl
  case isFalse quote =>
    split
    case isTrue h => subst h; rfl
    case isFalse backslash =>
      repeat (split; case isTrue h => subst h; rfl)
      split
      case isTrue control =>
        simp [scanStringFrom, scanEscape, scanUnits_control control]
      case isFalse plain =>
        simp [scanStringFrom, quote, backslash, plain]

/-- The characters of a string are read up to the quote that closes it. -/
theorem scanStringFrom_string {fuel : Nat} {s : Text} (enough : s.length < fuel)
    (read rest : Text) :
  scanStringFrom fuel read (s.flatMap escapeChar ++ '"' :: rest) = .ok (read.reverse ++ s, rest)
  := by
  induction s generalizing fuel read with
  | nil =>
      obtain ⟨n, rfl⟩ := Nat.exists_eq_add_one.mpr enough
      simp [scanStringFrom]
  | cons c s ih =>
      obtain ⟨n, rfl⟩ := Nat.exists_eq_add_one.mpr (Nat.zero_lt_of_lt enough)
      rw [List.flatMap_cons, List.append_assoc, scanStringFrom_escapeChar,
        ih (Nat.lt_of_succ_lt_succ enough)]
      simp

/-- What takes up room for each element of a list is no shorter than the list. -/
theorem length_le_flatMap {α β : Type} {f : α → List β} (some : ∀ a, f a ≠ []) (l : List α) :
  l.length ≤ (l.flatMap f).length
  := by
  induction l with
  | nil => apply Nat.le_refl
  | cons a l ih =>
      have := List.length_pos_iff.mpr (some a)
      rw [List.flatMap_cons, List.length_append, List.length_cons]
      omega

/-- Every character takes up room in a string. -/
theorem length_le_flatMap_escapeChar (s : Text) :
  s.length ≤ (s.flatMap escapeChar).length
  := by
  apply length_le_flatMap
  intro c
  unfold escapeChar
  repeat' split
  all_goals simp

/-- A string that is printed is read back. -/
theorem scanString_string (s rest : Text) :
  scanString (s.flatMap escapeChar ++ '"' :: rest) = .ok (s, rest)
  := by
  have enough : s.length < (s.flatMap escapeChar ++ '"' :: rest).length + 1 := by
    have := length_le_flatMap_escapeChar s
    simp only [List.length_append]
    omega
  rw [scanString, scanStringFrom_string enough]
  rfl

/-- A text without control characters. -/
def Visible (s : Text) : Prop :=
  ∀ c ∈ s, 0x20 ≤ c.toNat

-- The characters of the text are looked at, not all characters there are.
instance (s : Text) : Decidable (Visible s) :=
  List.decidableBAll _ s

theorem Visible.cons {c : Char} {s : Text} (shown : 0x20 ≤ c.toNat) (visible : Visible s) :
  Visible (c :: s)
  := by
  intro d
  rw [List.mem_cons]
  rintro (rfl | stands)
  · apply shown
  · apply visible d stands

theorem Visible.append {s t : Text} (left : Visible s) (right : Visible t) :
  Visible (s ++ t)
  := by
  intro c
  rw [List.mem_append]
  rintro (stands | stands)
  · apply left c stands
  · apply right c stands

/-- A character stands in a string without control characters. -/
theorem visible_escapeChar (c : Char) :
  Visible (escapeChar c)
  := by
  intro d stands
  by_cases control : c.toNat < 0x20
  case pos =>
    have all : ∀ n < 0x20, Visible (escapeChar (Char.ofNat n)) := by decide
    rw [← Char.ofNat_toNat c] at stands
    apply all _ control _ stands
  case neg =>
    unfold escapeChar at stands
    have quote : Visible ['\\', '"', 'b', 'f', 'n', 'r', 't'] := by decide
    repeat' split at stands
    all_goals first
      | contradiction
      | (obtain rfl := List.mem_singleton.mp stands
         omega)
      | (apply quote
         simp only [List.mem_cons, List.not_mem_nil, or_false] at stands ⊢
         tauto)

/-- The string of a text shows no control characters. -/
theorem visible_string (s : Text) :
  Visible (string s)
  := by
  have quote : Visible ['"'] := by decide
  apply Visible.append _ quote
  apply Visible.cons (quote '"' List.mem_cons_self)
  intro d
  rw [List.mem_flatMap]
  rintro ⟨c, -, stands⟩
  apply visible_escapeChar c d stands

end Json

end NotebookEngine
