import Mathlib.Algebra.Ring.Nat
import NotebookEngine.Proofs.Fragment.Lines
import NotebookEngine.Proofs.Json.Strings

/-!
# String literals of compiled fragments

A string literal stands for a text (`readString?`): most characters stand for themselves, an escape for the
character it denotes, and the escape of a line end for nothing. It ends where the token of the literal ends
(`afterString?_eq`). The quoted form of a text is a literal that stands for the text, whatever follows it
(`readString?_quote`).
-/

namespace NotebookEngine

namespace Fragment

open Lexer

/-! ### Reading -/

/-- What an escape stands for, after its backslash. -/
def denoted : Text → Text
  | 'x' :: a :: b :: _ =>
    match Text.hexValue? a, Text.hexValue? b with
    | some m, some n => [Char.ofNat (m * 16 + n)]
    | _, _ => []
  | 'u' :: '\x7b' :: rest =>
    match codePoint? 0 0 0 rest with
    | some (n, _) => [Char.ofNat n]
    | none => []
  | 'n' :: _ => ['\n']
  | 'r' :: _ => ['\r']
  | 't' :: _ => ['\t']
  | '0' :: _ => [Char.ofNat 0]
  | '\n' :: _ => []
  | '\r' :: _ => []
  | c :: _ => [c]
  | [] => []

/-- What a string literal stands for, and what follows it, the opening quote already read; `skip` characters
belong to an escape. A carriage return and a line feed stand for a line feed. -/
def readFrom? : (skip : Nat) → Text → Option (Text × Text)
  | _, [] => none
  | skip + 1, _ :: rest => readFrom? skip rest
  | 0, c :: rest =>
    if c = '"' then some ([], rest)
    else if c = '\r' then
      if rest.head? = some '\n' then readFrom? 0 rest else none
    else if c = '\\' then
      match escapeLength? .text true rest with
      | some length => (readFrom? length rest).map (Prod.map (denoted rest ++ ·) id)
      | none => none
    else (readFrom? 0 rest).map (Prod.map (c :: ·) id)

/-- What a string literal stands for, and what follows it. -/
def readString? : Text → Option (Text × Text)
  | '"' :: rest => readFrom? 0 rest
  | _ => none

/-- The literal is read up to where its token ends, but for a suffix. -/
theorem afterString?_eq (skip : Nat) (s : Text) :
  afterString? .text skip s = (readFrom? skip s).map fun r => afterSuffix r.2
  := by
  fun_induction readFrom? skip s with
  | case1 => rfl
  | case2 skip c rest ih => exact ih
  | case3 rest => rfl
  | case4 rest ends noQuote ih =>
      obtain ⟨rest, rfl⟩ := List.head?_eq_some_iff.mp ends
      exact ih
  | case5 rest alone noQuote =>
      rw [afterString?, if_neg noQuote, if_pos rfl, if_neg alone]
      rfl
  | case6 rest length escape noQuote noReturn ih =>
      rw [afterString?, if_neg noQuote, if_neg noReturn, if_pos rfl, escape, Option.map_map]
      exact ih
  | case7 rest broken noQuote noReturn =>
      rw [afterString?, if_neg noQuote, if_neg noReturn, if_pos rfl, broken]
      rfl
  | case8 c rest noQuote noReturn noBackslash ih =>
      have allowed : Flavour.allows .text c = true := rfl
      rw [afterString?, if_neg noQuote, if_neg noReturn, if_neg noBackslash, if_pos allowed,
        Option.map_map]
      exact ih

/-! ### Quoted texts -/

theorem hexDigits_of_lt {n : Nat} (small : n < 16) :
  Text.hexDigits n = [Nat.digitChar n]
  := Nat.toDigits_of_lt_base small

theorem hexDigits_of_le {n : Nat} (large : 16 ≤ n) :
  Text.hexDigits n = Text.hexDigits (n / 16) ++ [Nat.digitChar (n % 16)]
  := Nat.toDigits_of_base_le (by decide) large

theorem codePoint?_digit {digits value length n : Nat} (few : digits < 6) (small : n < 16) (rest : Text) :
  codePoint? digits value length (Nat.digitChar n :: rest)
    = codePoint? (digits + 1) (value * 16 + n) (length + 1) rest
  := by
  have digit : ∀ n < 16, Nat.digitChar n ≠ '_' ∧ Nat.digitChar n ≠ '\x7d'
      ∧ Text.hexValue? (Nat.digitChar n) = some n := by decide
  obtain ⟨noBlank, noEnd, denotes⟩ := digit n small
  simp [codePoint?, noBlank, noEnd, denotes, few.ne]

/-- The digits of a number denote it. -/
theorem codePoint?_hexDigits (n : Nat) {digits : Nat} (few : digits + (Text.hexDigits n).length ≤ 6)
    (value length : Nat) (rest : Text) :
  codePoint? digits value length (Text.hexDigits n ++ rest)
    = codePoint? (digits + (Text.hexDigits n).length) (value * 16 ^ (Text.hexDigits n).length + n)
      (length + (Text.hexDigits n).length) rest
  := by
  induction n using Nat.strongRecOn generalizing rest with
  | ind n ih =>
      rcases Nat.lt_or_ge n 16 with small | large
      · rw [hexDigits_of_lt small] at few ⊢
        exact codePoint?_digit few small rest
      · rw [hexDigits_of_le large, List.length_append, List.length_singleton] at few ⊢
        have next : value * 16 ^ ((Text.hexDigits (n / 16)).length + 1) + n
            = (value * 16 ^ (Text.hexDigits (n / 16)).length + n / 16) * 16 + n % 16 := by
          rw [pow_succ, ← mul_assoc]
          omega
        rw [List.append_assoc, ih (n / 16) (by omega) (by omega), List.singleton_append,
          codePoint?_digit (by omega) (Nat.mod_lt n (by decide)), next]
        rfl

theorem length_hexDigits_toNat (c : Char) :
  (Text.hexDigits c.toNat).length ≤ 6
  := by
  have valid : c.toNat < 0xD800 ∨ 0xDFFF < c.toNat ∧ c.toNat < 0x110000 := c.valid
  rw [Text.hexDigits, Nat.length_toDigits_le_iff (by decide) (by decide)]
  omega

theorem isScalar_toNat (c : Char) :
  isScalar c.toNat = true
  := by
  have valid : c.toNat < 0xD800 ∨ 0xDFFF < c.toNat ∧ c.toNat < 0x110000 := c.valid
  rw [isScalar, Bool.or_eq_true, Bool.and_eq_true, decide_eq_true_eq, decide_eq_true_eq, decide_eq_true_eq]
  omega

/-- The digits of a character, up to the brace behind them, denote it. -/
theorem codePoint?_toNat (c : Char) (rest : Text) :
  codePoint? 0 0 0 (Text.hexDigits c.toNat ++ '\x7d' :: rest)
    = some (c.toNat, (Text.hexDigits c.toNat).length + 1)
  := by
  have some : 0 < (Text.hexDigits c.toNat).length := Nat.length_toDigits_pos
  rw [codePoint?_hexDigits c.toNat (by rw [Nat.zero_add]; exact length_hexDigits_toNat c)]
  simp [codePoint?, some]

theorem readFrom?_skip (s : Text) (rest : Text) :
  readFrom? s.length (s ++ rest) = readFrom? 0 rest
  := by
  induction s with
  | nil => rfl
  | cons c s ih => exact ih

/-- An escape is read as what it stands for. -/
theorem readFrom?_escape (escape : Text) {rest : Text}
    (length : escapeLength? .text true (escape ++ rest) = some escape.length) :
  readFrom? 0 ('\\' :: (escape ++ rest))
    = (readFrom? 0 rest).map (Prod.map (denoted (escape ++ rest) ++ ·) id)
  := by
  have plain : '\\' ≠ '"' ∧ '\\' ≠ '\r' := by decide
  rw [readFrom?, if_neg plain.1, if_neg plain.2, if_pos rfl, length]
  simp only [readFrom?_skip]

/-- A character is read from its code point. -/
theorem readFrom?_codePoint (c : Char) (rest : Text) :
  readFrom? 0 (['\\', 'u', '\x7b'] ++ Text.hexDigits c.toNat ++ ['\x7d'] ++ rest)
    = (readFrom? 0 rest).map (Prod.map (c :: ·) id)
  := by
  have apart : ['\\', 'u', '\x7b'] ++ Text.hexDigits c.toNat ++ ['\x7d'] ++ rest
      = '\\' :: ('u' :: '\x7b' :: (Text.hexDigits c.toNat ++ ['\x7d']) ++ rest) := by
    simp only [List.append_assoc, List.cons_append, List.nil_append]
  have closed : Text.hexDigits c.toNat ++ ['\x7d'] ++ rest = Text.hexDigits c.toNat ++ '\x7d' :: rest := by
    rw [List.append_assoc, List.singleton_append]
  have length : escapeLength? .text true ('u' :: '\x7b' :: (Text.hexDigits c.toNat ++ ['\x7d']) ++ rest)
      = some ('u' :: '\x7b' :: (Text.hexDigits c.toNat ++ ['\x7d'])).length := by
    rw [List.cons_append, List.cons_append, closed]
    simp [escapeLength?, codePoint?_toNat, isScalar_toNat]
  have denotes : denoted ('u' :: '\x7b' :: (Text.hexDigits c.toNat ++ ['\x7d']) ++ rest) = [c] := by
    rw [List.cons_append, List.cons_append, closed]
    simp only [denoted, codePoint?_toNat, Char.ofNat_toNat]
  rw [apart, readFrom?_escape _ length, denotes]
  rfl

theorem readFrom?_quoteChar (c : Char) (rest : Text) :
  readFrom? 0 (Text.quoteChar c ++ rest) = (readFrom? 0 rest).map (Prod.map (c :: ·) id)
  := by
  by_cases quote : c = '"'
  · rw [quote]
    exact readFrom?_escape ['"'] rfl
  by_cases backslash : c = '\\'
  · rw [backslash]
    exact readFrom?_escape ['\\'] rfl
  by_cases newline : c = '\n'
  · rw [newline]
    exact readFrom?_escape ['n'] rfl
  by_cases ret : c = '\r'
  · rw [ret]
    exact readFrom?_escape ['r'] rfl
  by_cases tab : c = '\t'
  · rw [tab]
    exact readFrom?_escape ['t'] rfl
  by_cases null : c = Char.ofNat 0
  · rw [null]
    exact readFrom?_escape ['0'] rfl
  rw [Text.quoteChar, if_neg quote, if_neg backslash, if_neg newline, if_neg ret, if_neg tab, if_neg null]
  split
  · exact readFrom?_codePoint c rest
  · rw [List.singleton_append, readFrom?, if_neg quote, if_neg ret, if_neg backslash]

theorem quote_append (s rest : Text) :
  Text.quote s ++ rest = '"' :: (s.flatMap Text.quoteChar ++ '"' :: rest)
  := by
  rw [Text.quote, List.append_assoc]
  rfl

theorem readFrom?_flatMap_quoteChar (s rest : Text) :
  readFrom? 0 (s.flatMap Text.quoteChar ++ '"' :: rest) = some (s, rest)
  := by
  induction s with
  | nil => rfl
  | cons c s ih =>
      rw [List.flatMap_cons, List.append_assoc, readFrom?_quoteChar, ih]
      rfl

/-- What is quoted is read back, and the literal ends where it ends. -/
theorem readString?_quote (s rest : Text) :
  readString? (Text.quote s ++ rest) = some (s, rest)
  := by
  rw [quote_append]
  exact readFrom?_flatMap_quoteChar s rest

/-- The token of a quoted text is one literal, up to what follows it. -/
theorem literal?_quote (s : Text) {c : Char} (noWord : startsWord c = false) (rest : Text) :
  literal? (Text.quote s ++ c :: rest) = some (.string, c :: rest)
  := by
  have suffix : afterSuffix (c :: rest) = c :: rest := by simp [afterSuffix, word?, noWord]
  rw [quote_append, literal?]
  simp [afterString?_eq, readFrom?_flatMap_quoteChar, suffix]

example : readString? "\"\\x41\\u\x7be9\x7d\\\n  b\";".toList = some ("Aéb".toList, [';']) := by
  decide +kernel

end Fragment

end NotebookEngine
