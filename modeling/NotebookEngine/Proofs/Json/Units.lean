import Mathlib.Data.List.Basic
import NotebookEngine.Proofs.Json.Written

/-!
# Strings of code units

A runtime of scripts has strings of 16-bit code units, of which no pairing is asked. What they stand
for are characters, and halves of pairs without their other halves (`codePoints`). The string of the
code units has each such half as an escape (`unitsString`). It is read back if there are no such
halves, for then it is the string of a text (`unitsString_eq`), and there is no way to read it if there
are (`refuses_units`).
-/

namespace NotebookEngine

namespace Json

/-- A string of code units. -/
abbrev Units := List UInt16

/-- What stands in a string of code units. -/
inductive CodePoint where
  | scalar (c : Char)
  /-- Half of a pair without its other half. -/
  | lone (u : UInt16)

/-- A code unit of the first half of a pair. -/
def isLeading (u : UInt16) : Bool :=
  0xD800 ≤ u.toNat && u.toNat ≤ 0xDBFF

/-- A code unit of the second half of a pair. -/
def isTrailing (u : UInt16) : Bool :=
  0xDC00 ≤ u.toNat && u.toNat ≤ 0xDFFF

/-- What a code unit stands for that belongs to no pair. -/
def CodePoint.single (u : UInt16) : CodePoint :=
  if isLeading u || isTrailing u then .lone u else .scalar (Char.ofNat u.toNat)

/-- The character that a pair stands for. -/
def pairedChar (u v : UInt16) : Char :=
  Char.ofNat ((u.toNat - 0xD800) * 0x400 + (v.toNat - 0xDC00) + 0x10000)

/-- What code units stand for: a pair for one character, any other for itself. -/
def codePoints : Units → List CodePoint
  | [] => []
  | [u] => [.single u]
  | u :: v :: us =>
    if isLeading u && isTrailing v then .scalar (pairedChar u v) :: codePoints us
    else .single u :: codePoints (v :: us)

/-- The text of code points, if none of them is half of a pair. -/
def textOf? : List CodePoint → Option Text
  | [] => some []
  | .scalar c :: ps => (textOf? ps).map (c :: ·)
  | .lone _ :: _ => none

/-- The text of code units, if they have no half of a pair without the other. -/
def Units.text? (us : Units) : Option Text :=
  textOf? (codePoints us)

/-- The code units of a character. -/
def unitsOfChar (c : Char) : Units :=
  if c.toNat < 0x10000 then [.ofNat c.toNat]
  else [.ofNat (0xD800 + (c.toNat - 0x10000) / 0x400), .ofNat (0xDC00 + (c.toNat - 0x10000) % 0x400)]

/-- The code units of a text. -/
def Units.ofText (t : Text) : Units :=
  t.flatMap unitsOfChar

/-- Four hexadecimal digits. -/
def hexDigits4 (n : Nat) : Text :=
  [Text.hexDigit (n / 4096 % 16), Text.hexDigit (n / 256 % 16), Text.hexDigit (n / 16 % 16),
    Text.hexDigit (n % 16)]

/-- What stands in a string for a code point. -/
def CodePoint.escape : CodePoint → Text
  | .scalar c => escapeChar c
  | .lone u => '\\' :: 'u' :: hexDigits4 u.toNat

/-- The string of code units. -/
def unitsString (us : Units) : Text :=
  '"' :: (codePoints us).flatMap CodePoint.escape ++ ['"']

/-! ### Code units of a text -/

theorem textOf?_eq_none_iff {ps : List CodePoint} :
  textOf? ps = none ↔ ∃ u, .lone u ∈ ps
  := by
  induction ps with
  | nil => simp [textOf?]
  | cons p ps ih => cases p <;> simp [textOf?, ih]

theorem codePoints_unitsOfChar (c : Char) (us : Units) :
  codePoints (unitsOfChar c ++ us) = .scalar c :: codePoints us
  := by
  have valid : c.toNat < 0xD800 ∨ 0xDFFF < c.toNat ∧ c.toNat < 0x110000 := c.valid
  unfold unitsOfChar
  split
  case isTrue small =>
    have unit : (UInt16.ofNat c.toNat).toNat = c.toNat := UInt16.toNat_ofNat_of_lt small
    have noLeading : isLeading (.ofNat c.toNat) = false := by
      rw [isLeading, unit, Bool.and_eq_false_iff, decide_eq_false_iff_not, decide_eq_false_iff_not]
      omega
    have noTrailing : isTrailing (.ofNat c.toNat) = false := by
      rw [isTrailing, unit, Bool.and_eq_false_iff, decide_eq_false_iff_not, decide_eq_false_iff_not]
      omega
    have single : CodePoint.single (.ofNat c.toNat) = .scalar c := by
      simp [CodePoint.single, noLeading, noTrailing, unit]
    cases us with
    | nil => exact congrArg (fun p => [p]) single
    | cons v us => simp [codePoints, noLeading, single]
  case isFalse large =>
    have size : UInt16.size = 0x10000 := rfl
    have first : (UInt16.ofNat (0xD800 + (c.toNat - 0x10000) / 0x400)).toNat
        = 0xD800 + (c.toNat - 0x10000) / 0x400 := UInt16.toNat_ofNat_of_lt (by omega)
    have second : (UInt16.ofNat (0xDC00 + (c.toNat - 0x10000) % 0x400)).toNat
        = 0xDC00 + (c.toNat - 0x10000) % 0x400 := UInt16.toNat_ofNat_of_lt (by omega)
    have leading : isLeading (.ofNat (0xD800 + (c.toNat - 0x10000) / 0x400)) = true := by
      rw [isLeading, first, Bool.and_eq_true, decide_eq_true_eq, decide_eq_true_eq]
      omega
    have trailing : isTrailing (.ofNat (0xDC00 + (c.toNat - 0x10000) % 0x400)) = true := by
      rw [isTrailing, second, Bool.and_eq_true, decide_eq_true_eq, decide_eq_true_eq]
      omega
    have paired : pairedChar (.ofNat (0xD800 + (c.toNat - 0x10000) / 0x400))
        (.ofNat (0xDC00 + (c.toNat - 0x10000) % 0x400)) = c := by
      have value : (0xD800 + (c.toNat - 0x10000) / 0x400 - 0xD800) * 0x400
          + (0xDC00 + (c.toNat - 0x10000) % 0x400 - 0xDC00) + 0x10000 = c.toNat := by omega
      rw [pairedChar, first, second, value, Char.ofNat_toNat]
    rw [List.cons_append, List.singleton_append, codePoints, leading, trailing, paired]
    rfl

/-- Code units of a text are read as the text. -/
theorem text?_ofText (t : Text) :
  (Units.ofText t).text? = some t
  := by
  rw [Units.text?, Units.ofText]
  induction t with
  | nil => rfl
  | cons c t ih => simp [codePoints_unitsOfChar, textOf?, ih]

theorem flatMap_escape {ps : List CodePoint} {t : Text} (text : textOf? ps = some t) :
  ps.flatMap CodePoint.escape = t.flatMap escapeChar
  := by
  induction ps generalizing t with
  | nil =>
      cases text
      rfl
  | cons p ps ih =>
      cases p with
      | lone u => nomatch text
      | scalar c =>
          obtain ⟨t, rest, rfl⟩ := Option.map_eq_some_iff.mp text
          rw [List.flatMap_cons, List.flatMap_cons, ih rest]
          rfl

/-- Code units of a text have the string of the text. -/
theorem unitsString_eq {us : Units} {t : Text} (text : us.text? = some t) :
  unitsString us = string t
  := by
  rw [unitsString, string, flatMap_escape text]

/-! ### Escapes by code units -/

/-- Four digits of a code unit denote it. -/
theorem scanHex_hexDigits4 {n : Nat} (small : n < 0x10000) (rest : Text) :
  scanHex (hexDigits4 n ++ rest) = .ok (n, rest)
  := by
  have value : ((n / 4096 % 16 * 16 + n / 256 % 16) * 16 + n / 16 % 16) * 16 + n % 16 = n := by omega
  have digit (m : Nat) : Text.hexValue? (Text.hexDigit (m % 16)) = some (m % 16) :=
    hexValue?_hexDigit (Nat.mod_lt m (by decide))
  simp only [hexDigits4, List.cons_append, List.nil_append, scanHex, hexValue4?, digit, bind,
    Option.bind, pure, value]

/-- The second half of a pair is not read without the first. -/
theorem scanUnits_trailing {u : UInt16} (trailing : isTrailing u = true) (rest : Text) :
  ∃ e, scanUnits (hexDigits4 u.toNat ++ rest) = .error e
  := by
  rw [isTrailing, Bool.and_eq_true, decide_eq_true_eq, decide_eq_true_eq] at trailing
  simp [scanUnits, scanHex_hexDigits4 u.toNat_lt, bind, Except.bind, trailing, throw, throwThe,
    MonadExceptOf.throw]

/-- A text does not begin with an escape of the second half of a pair. -/
def Unpaired (s : Text) : Prop :=
  ∀ rest n rest', s = '\\' :: 'u' :: rest → scanHex rest = .ok (n, rest') → n < 0xDC00 ∨ 0xDFFF < n

/-- The first half of a pair is not read without the second. -/
theorem scanUnits_leading {u : UInt16} (leading : isLeading u = true) {s : Text}
    (unpaired : Unpaired s) :
  ∃ e, scanUnits (hexDigits4 u.toNat ++ s) = .error e
  := by
  rw [isLeading, Bool.and_eq_true, decide_eq_true_eq, decide_eq_true_eq] at leading
  have noTrailing : ¬0xDC00 ≤ u.toNat := by omega
  have half : (decide (u.toNat < 0xD800) || decide (0xDBFF < u.toNat)) = false := by simpa using leading
  simp only [scanUnits, scanHex_hexDigits4 u.toNat_lt, bind, Except.bind, noTrailing, half,
    decide_false, Bool.false_and, Bool.false_eq_true, ↓reduceIte]
  split
  case h_2 rest =>
    cases scanned : scanHex rest with
    | error e => exact ⟨e, rfl⟩
    | ok p =>
        have outside := unpaired rest p.1 p.2 rfl scanned
        simp [outside, throw, throwThe, MonadExceptOf.throw]
  all_goals exact ⟨_, rfl⟩

/-! ### What may follow half of a pair -/

theorem unpaired_quote (s : Text) :
  Unpaired ('"' :: s)
  := by
  intro rest n rest' same
  nomatch (List.cons.inj same).1

/-- The escape of a control character shows its four digits. -/
theorem hexDigits4_control {c : Char} (control : c.toNat < 0x20) :
  hexDigits4 c.toNat
    = ['0', '0', Text.hexDigit (c.toNat / 16), Text.hexDigit (c.toNat % 16)]
  := by
  have first : c.toNat / 4096 % 16 = 0 := by omega
  have second : c.toNat / 256 % 16 = 0 := by omega
  have third : c.toNat / 16 % 16 = c.toNat / 16 := by omega
  rw [hexDigits4, first, second, third]
  rfl

/-- No character has the escape of half of a pair. -/
theorem unpaired_escapeChar (c : Char) (s : Text) :
  Unpaired (escapeChar c ++ s)
  := by
  intro rest n rest' same scanned
  unfold escapeChar at same
  split at same
  case isTrue => simp at same
  case isFalse =>
    split at same
    case isTrue => simp at same
    case isFalse backslash =>
      repeat (split at same; case isTrue => simp at same)
      split at same
      case isTrue control =>
        obtain rfl := (List.cons.inj (List.cons.inj same).2).2
        have denoted := scanHex_hexDigits4 (n := c.toNat) (by omega) s
        rw [hexDigits4_control control] at denoted
        cases denoted.symm.trans scanned
        omega
      case isFalse => exact absurd (List.cons.inj same).1 backslash

/-- The escape of a unit that is no second half of a pair is none of such a half. -/
theorem unpaired_lone {u : UInt16} (noTrailing : isTrailing u = false) (s : Text) :
  Unpaired ((CodePoint.lone u).escape ++ s)
  := by
  intro rest n rest' same scanned
  obtain rfl := (List.cons.inj (List.cons.inj same).2).2
  cases (scanHex_hexDigits4 u.toNat_lt s).symm.trans scanned
  rw [isTrailing, Bool.and_eq_false_iff, decide_eq_false_iff_not, decide_eq_false_iff_not]
    at noTrailing
  omega

/-- So is what stands for code units of which the first is no second half of a pair. -/
theorem unpaired_codePoints {u : UInt16} (noTrailing : isTrailing u = false) (us : Units) (s : Text) :
  Unpaired ((codePoints (u :: us)).flatMap CodePoint.escape ++ s)
  := by
  have single (t : Text) : Unpaired ((CodePoint.single u).escape ++ t) := by
    rw [CodePoint.single]
    split
    case isTrue => exact unpaired_lone noTrailing t
    case isFalse => exact unpaired_escapeChar _ t
  cases us with
  | nil =>
      rw [codePoints, List.flatMap_cons, List.append_assoc]
      exact single _
  | cons v us =>
      rw [codePoints]
      split
      case isTrue =>
        rw [List.flatMap_cons, List.append_assoc]
        exact unpaired_escapeChar _ _
      case isFalse =>
        rw [List.flatMap_cons, List.append_assoc]
        exact single _

/-! ### Reading -/

/-- No string is read from a text, whatever was read of the string before. -/
def Unreadable (s : Text) : Prop :=
  ∀ fuel read, ∃ e, scanStringFrom fuel read s = .error e

theorem unreadable_escapeChar (c : Char) {s : Text} (unreadable : Unreadable s) :
  Unreadable (escapeChar c ++ s)
  := by
  intro fuel read
  cases fuel with
  | zero => exact ⟨_, rfl⟩
  | succ fuel =>
      rw [scanStringFrom_escapeChar]
      apply unreadable

/-- Half of a pair is not read without the other half. -/
theorem unreadable_lone {u : UInt16} {s : Text}
    (half : isTrailing u = true ∨ isLeading u = true ∧ Unpaired s) :
  Unreadable ((CodePoint.lone u).escape ++ s)
  := by
  intro fuel read
  cases fuel with
  | zero => exact ⟨_, rfl⟩
  | succ fuel =>
      obtain ⟨e, stopped⟩ : ∃ e, scanUnits (hexDigits4 u.toNat ++ s) = .error e := by
        rcases half with trailing | ⟨leading, unpaired⟩
        · exact scanUnits_trailing trailing s
        · exact scanUnits_leading leading unpaired
      simp [CodePoint.escape, scanStringFrom, scanEscape, stopped]

/-- A unit that belongs to no pair leaves nothing to read, if it is half of one, or if there is nothing
to read after it. -/
theorem unreadable_single {u : UInt16} {s : Text}
    (half : isLeading u = true → Unpaired s)
    (unreadable : isLeading u = false → isTrailing u = false → Unreadable s) :
  Unreadable ((CodePoint.single u).escape ++ s)
  := by
  rw [CodePoint.single]
  split
  case isTrue surrogate =>
    rw [Bool.or_eq_true] at surrogate
    rcases surrogate with leading | trailing
    · exact unreadable_lone (.inr ⟨leading, half leading⟩)
    · exact unreadable_lone (.inl trailing)
  case isFalse scalar =>
    rw [Bool.not_eq_true, Bool.or_eq_false_iff] at scalar
    exact unreadable_escapeChar _ (unreadable scalar.1 scalar.2)

theorem textOf?_single {u : UInt16} {ps : List CodePoint} (leading : isLeading u = false)
    (trailing : isTrailing u = false) (lone : textOf? (.single u :: ps) = none) :
  textOf? ps = none
  := by
  simpa [CodePoint.single, leading, trailing, textOf?] using lone

/-- A string with half of a pair is not read. -/
theorem unreadable_units {us : Units} (lone : us.text? = none) (rest : Text) :
  Unreadable ((codePoints us).flatMap CodePoint.escape ++ '"' :: rest)
  := by
  rw [Units.text?] at lone
  fun_induction codePoints us with
  | case1 => nomatch lone
  | case2 u =>
      rw [List.flatMap_cons, List.append_assoc]
      apply unreadable_single (fun _ => unpaired_quote rest)
      intro leading trailing
      nomatch textOf?_single leading trailing lone
  | case3 u v us pair ih =>
      rw [List.flatMap_cons, List.append_assoc]
      exact unreadable_escapeChar _ (ih (Option.map_eq_none_iff.mp lone))
  | case4 u v us single ih =>
      rw [List.flatMap_cons, List.append_assoc]
      apply unreadable_single
      · intro leading
        apply unpaired_codePoints
        simpa [leading] using single
      · intro leading trailing
        exact ih (textOf?_single leading trailing lone)

/-- A scanner reads nothing from a text, whatever gap stands before it and whatever follows. -/
def Refuses {α : Type} (item : Scan α) (t : Text) : Prop :=
  ∀ gap rest, Gap gap → ∃ e, item (gap ++ (t ++ rest)) = .error e

/-- The string of code units is read as their text, if they have one. -/
theorem takes_units {us : Units} {t : Text} (text : us.text? = some t) (depth : Nat) :
  Takes (scanValue depth) (unitsString us) (.text t)
  := by
  rw [unitsString_eq text]
  exact Written.text.scanValue

/-- If they have none, it is refused. -/
theorem refuses_units {us : Units} (lone : us.text? = none) (depth : Nat) :
  Refuses (scanValue depth) (unitsString us)
  := by
  intro gap rest before
  rw [unitsString, List.append_assoc, List.cons_append, List.singleton_append, scanValue]
  simp only [skipGap_append before, skipGap_cons (show isGap '"' = false from rfl), scanString]
  obtain ⟨e, stopped⟩ := unreadable_units lone rest
    (((codePoints us).flatMap CodePoint.escape ++ '"' :: rest).length + 1) []
  rw [stopped]
  exact ⟨e, rfl⟩

end Json

end NotebookEngine
