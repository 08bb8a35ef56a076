import Mathlib.Data.List.Basic
import NotebookEngine.Proofs.Json.Written

/-!
# Literals

The strings and numbers of JSON as they may be written (`Glyph`, `Numeral`). A string is read as what
its glyphs spell, and not at all if they spell nothing, which is so if there is half of a pair of code
units without the other half (`scanString_glyphs`); it is passed over in any case. A number is read to
its end, or refused (`Numeral.scanNumber_ends`).
-/

namespace NotebookEngine

namespace Json

/-! ### Strings -/

/-- A part of a string as it is written, with what it says. -/
inductive Glyph where
  /-- A character that stands for itself. -/
  | plain (c : Char) (free : c ≠ '"' ∧ c ≠ '\\' ∧ 0x20 ≤ c.toNat)
  /-- A letter after a backslash. -/
  | letter (l c : Char) (stands : escaped? l = some c)
  /-- A code unit by its digits. -/
  | unit (a b c d : Char) (n : Nat) (stands : hexValue4? a b c d = some n)

/-- The glyph as it is written. -/
def Glyph.text : Glyph → Text
  | plain c _ => [c]
  | letter l _ _ => ['\\', l]
  | unit a b c d _ _ => ['\\', 'u', a, b, c, d]

/-- A string as it is written. -/
def literal (gs : List Glyph) : Text :=
  '"' :: (gs.flatMap Glyph.text ++ ['"'])

/-- The text that glyphs spell: half of a pair of code units says nothing without the other. -/
def spelled? : List Glyph → Option Text
  | [] => some []
  | .plain c _ :: gs => (spelled? gs).map (c :: ·)
  | .letter _ c _ :: gs => (spelled? gs).map (c :: ·)
  | .unit _ _ _ _ n _ :: gs =>
    if 0xD800 ≤ n ∧ n ≤ 0xDFFF then
      match gs with
      | .unit _ _ _ _ m _ :: gs =>
        if n < 0xDC00 ∧ 0xDC00 ≤ m ∧ m ≤ 0xDFFF then
          (spelled? gs).map (Char.ofNat ((n - 0xD800) * 0x400 + (m - 0xDC00) + 0x10000) :: ·)
        else none
      | _ => none
    else (spelled? gs).map (Char.ofNat n :: ·)

theorem Glyph.text_ne_nil (g : Glyph) :
  g.text ≠ []
  := by
  cases g <;> simp [text]

theorem literal_append (gs : List Glyph) (rest : Text) :
  literal gs ++ rest = '"' :: (gs.flatMap Glyph.text ++ '"' :: rest)
  := by
  simp [literal]

/-- What a scanner makes of glyphs, after what it has read: the text that they spell, or nothing. -/
def Spells (read rest : Text) (spelled : Option Text) (scanned : Except Stop (Text × Text)) : Prop :=
  match spelled with
  | some s => scanned = .ok (read.reverse ++ s, rest)
  | none => ∃ e, scanned = .error e

theorem Spells.cons {c : Char} {read rest : Text} {spelled : Option Text}
    {scanned : Except Stop (Text × Text)} (spells : Spells (c :: read) rest spelled scanned) :
  Spells read rest (spelled.map (c :: ·)) scanned
  := by
  cases spelled with
  | none => exact spells
  | some s => simpa [Spells] using spells

section Glyphs

variable {a b c d : Char} {n : Nat} (stands : hexValue4? a b c d = some n) (rest : Text)

include stands

theorem scanHex_digits :
  scanHex (a :: b :: c :: d :: rest) = .ok (n, rest)
  := by
  simp only [scanHex, stands]

/-- A code unit that belongs to no pair is a character. -/
theorem scanUnits_single (single : ¬(0xD800 ≤ n ∧ n ≤ 0xDFFF)) :
  scanUnits (a :: b :: c :: d :: rest) = .ok (Char.ofNat n, rest)
  := by
  have noTrailing : ¬(0xDC00 ≤ n ∧ n ≤ 0xDFFF) := by omega
  have noLeading : n < 0xD800 ∨ 0xDBFF < n := by omega
  simp [scanUnits, scanHex_digits stands, bind, Except.bind, pure, Except.pure, noTrailing, noLeading]

/-- A pair of code units is a character. -/
theorem scanUnits_pair {a' b' c' d' : Char} {m : Nat} (stands' : hexValue4? a' b' c' d' = some m)
    (leading : 0xD800 ≤ n ∧ n < 0xDC00) (trailing : 0xDC00 ≤ m ∧ m ≤ 0xDFFF) :
  scanUnits (a :: b :: c :: d :: '\\' :: 'u' :: a' :: b' :: c' :: d' :: rest)
    = .ok (Char.ofNat ((n - 0xD800) * 0x400 + (m - 0xDC00) + 0x10000), rest)
  := by
  have noTrailing : ¬(0xDC00 ≤ n ∧ n ≤ 0xDFFF) := by omega
  have first : ¬(n < 0xD800 ∨ 0xDBFF < n) := by omega
  have second : ¬(m < 0xDC00 ∨ 0xDFFF < m) := by omega
  simp [scanUnits, scanHex_digits stands, scanHex_digits stands', bind, Except.bind, pure,
    Except.pure, noTrailing, first, second]

/-- Half of a pair is nothing unless the other half follows. -/
theorem scanUnits_half (half : 0xD800 ≤ n ∧ n ≤ 0xDFFF)
    (apart : n < 0xDC00 → ∀ rest' p, rest = '\\' :: 'u' :: rest' → scanHex rest' = .ok p →
      p.1 < 0xDC00 ∨ 0xDFFF < p.1) :
  ∃ e, scanUnits (a :: b :: c :: d :: rest) = .error e
  := by
  rcases Nat.lt_or_ge n 0xDC00 with leading | trailing
  · have noTrailing : ¬0xDC00 ≤ n := by omega
    have first : ¬(n < 0xD800 ∨ 0xDBFF < n) := by omega
    simp only [scanUnits, scanHex_digits stands, bind, Except.bind, noTrailing, first, decide_false,
      Bool.false_and, Bool.false_eq_true, ↓reduceIte, Bool.or_eq_true, decide_eq_true_eq]
    split
    case h_2 rest' =>
      cases scanned : scanHex rest' with
      | error e => exact ⟨e, rfl⟩
      | ok p => simp [apart leading rest' p rfl scanned, throw, throwThe, MonadExceptOf.throw]
    all_goals exact ⟨_, rfl⟩
  · simp [scanUnits, scanHex_digits stands, bind, Except.bind, trailing, half.2, throw, throwThe,
      MonadExceptOf.throw]

end Glyphs

/-- What a scanner does with a code unit. -/
theorem scanStringFrom_unit (fuel : Nat) (read s : Text) :
  scanStringFrom (fuel + 1) read ('\\' :: 'u' :: s)
    = match scanUnits s with
      | .ok (d, rest) => scanStringFrom fuel (d :: read) rest
      | .error e => .error e
  := by
  cases scanned : scanUnits s <;> simp [scanStringFrom, scanEscape, scanned]

/-- Nothing is spelled by half of a pair without the other half. -/
theorem spells_half {a b c d : Char} {n : Nat} (stands : hexValue4? a b c d = some n)
    (half : 0xD800 ≤ n ∧ n ≤ 0xDFFF) {fuel : Nat} {gs : List Glyph} {read rest : Text}
    (apart : n < 0xDC00 → ∀ rest' p, gs.flatMap Glyph.text ++ '"' :: rest = '\\' :: 'u' :: rest' →
      scanHex rest' = .ok p → p.1 < 0xDC00 ∨ 0xDFFF < p.1) :
  Spells read rest none (scanStringFrom (fuel + 1) read
    ((Glyph.unit a b c d n stands :: gs).flatMap Glyph.text ++ '"' :: rest))
  := by
  obtain ⟨e, stopped⟩ := scanUnits_half stands _ half apart
  simp only [List.flatMap_cons, Glyph.text, List.cons_append, List.nil_append, scanStringFrom_unit,
    stopped]
  exact ⟨e, rfl⟩

/-- Glyphs that begin like a code unit begin with one. -/
theorem exists_unit {gs : List Glyph} {rest rest' : Text}
    (same : gs.flatMap Glyph.text ++ '"' :: rest = '\\' :: 'u' :: rest') :
  ∃ a b c d n stands gs', gs = .unit a b c d n stands :: gs'
  := by
  cases gs with
  | nil => simp at same
  | cons g gs =>
      cases g with
      | plain c free => simp [Glyph.text, free.2.1] at same
      | letter l c stands =>
          simp only [List.flatMap_cons, Glyph.text, List.cons_append, List.nil_append,
            List.cons.injEq, true_and] at same
          rw [same.1] at stands
          cases stands
      | unit a b c d n stands => exact ⟨a, b, c, d, n, stands, gs, rfl⟩

/-- Glyphs are read as what they spell. -/
theorem scanStringFrom_glyphs {fuel : Nat} {gs : List Glyph} (enough : gs.length < fuel)
    (read rest : Text) :
  Spells read rest (spelled? gs) (scanStringFrom fuel read (gs.flatMap Glyph.text ++ '"' :: rest))
  := by
  fun_induction spelled? gs generalizing fuel read with
  | case1 =>
      obtain ⟨fuel, rfl⟩ := Nat.exists_eq_add_one.mpr enough
      simp [Spells, scanStringFrom]
  | case2 c free gs ih =>
      obtain ⟨fuel, rfl⟩ := Nat.exists_eq_add_one.mpr (Nat.zero_lt_of_lt enough)
      obtain ⟨quote, backslash, visible⟩ := free
      have next := (ih (Nat.lt_of_succ_lt_succ enough) (c :: read)).cons
      simpa [Glyph.text, scanStringFrom, quote, backslash, Nat.not_lt.mpr visible] using next
  | case3 l c stands gs ih =>
      obtain ⟨fuel, rfl⟩ := Nat.exists_eq_add_one.mpr (Nat.zero_lt_of_lt enough)
      have next := (ih (Nat.lt_of_succ_lt_succ enough) (c :: read)).cons
      have noUnit : l ≠ 'u' := by
        rintro rfl
        cases stands
      simpa [Glyph.text, scanStringFrom, scanEscape, noUnit, stands] using next
  | case4 a b c d n stands half a' b' c' d' m stands' gs pair ih =>
      obtain ⟨fuel, rfl⟩ := Nat.exists_eq_add_one.mpr (Nat.zero_lt_of_lt enough)
      have next := (ih (Nat.lt_of_succ_lt (Nat.lt_of_succ_lt_succ enough))
        (Char.ofNat ((n - 0xD800) * 0x400 + (m - 0xDC00) + 0x10000) :: read)).cons
      simpa [Glyph.text, scanStringFrom_unit,
        scanUnits_pair stands _ stands' ⟨half.1, pair.1⟩ pair.2] using next
  | case5 a b c d n stands half a' b' c' d' m stands' gs noPair =>
      obtain ⟨fuel, rfl⟩ := Nat.exists_eq_add_one.mpr (Nat.zero_lt_of_lt enough)
      apply spells_half stands half
      intro leading rest' p same scanned
      simp only [List.flatMap_cons, Glyph.text, List.cons_append, List.nil_append,
        List.cons.injEq, true_and] at same
      rw [← same, scanHex_digits stands'] at scanned
      cases scanned
      dsimp only
      omega
  | case6 a b c d n stands gs half alone =>
      obtain ⟨fuel, rfl⟩ := Nat.exists_eq_add_one.mpr (Nat.zero_lt_of_lt enough)
      apply spells_half stands half
      intro leading rest' p same scanned
      obtain ⟨a', b', c', d', m, stands', gs', rfl⟩ := exists_unit same
      exact (alone _ _ _ _ _ _ _ rfl).elim
  | case7 a b c d n stands gs single ih =>
      obtain ⟨fuel, rfl⟩ := Nat.exists_eq_add_one.mpr (Nat.zero_lt_of_lt enough)
      have next := (ih (Nat.lt_of_succ_lt_succ enough) (Char.ofNat n :: read)).cons
      simpa [Glyph.text, scanStringFrom_unit, scanUnits_single stands _ single] using next

/-- A string is read as what it spells, if it spells anything. -/
theorem scanString_glyphs (gs : List Glyph) (rest : Text) :
  Spells [] rest (spelled? gs) (scanString (gs.flatMap Glyph.text ++ '"' :: rest))
  := by
  apply scanStringFrom_glyphs
  have length := length_le_flatMap Glyph.text_ne_nil gs
  rw [List.length_append]
  omega

/-- Glyphs are passed over, whatever they spell. -/
theorem skipString_glyphs {fuel : Nat} {gs : List Glyph} (enough : gs.length < fuel)
    (rest : Text) :
  skipString fuel (gs.flatMap Glyph.text ++ '"' :: rest) = .ok rest
  := by
  induction gs generalizing fuel with
  | nil =>
      obtain ⟨fuel, rfl⟩ := Nat.exists_eq_add_one.mpr enough
      simp [skipString]
  | cons g gs ih =>
      obtain ⟨fuel, rfl⟩ := Nat.exists_eq_add_one.mpr (Nat.zero_lt_of_lt enough)
      have next := ih (Nat.lt_of_succ_lt_succ enough)
      cases g with
      | plain c free =>
          obtain ⟨quote, backslash, visible⟩ := free
          simpa [Glyph.text, skipString, quote, backslash, Nat.not_lt.mpr visible] using next
      | letter l c stands =>
          have noUnit : l ≠ 'u' := by
            rintro rfl
            cases stands
          simpa [Glyph.text, skipString, noUnit, stands] using next
      | unit a b c d n stands =>
          simpa [Glyph.text, skipString, scanHex_digits stands] using next

/-! ### What may follow a value -/

/-- A value ends before the text: nothing follows, or a gap, or what goes on or ends with a list or an
object. -/
def Stops (rest : Text) : Prop :=
  ∀ c ∈ rest.head?, isGap c = true ∨ c = ',' ∨ c = ']' ∨ c = '\x7d'

theorem stops_nil :
  Stops []
  := nofun

theorem stops_cons {c : Char} (stop : isGap c = true ∨ c = ',' ∨ c = ']' ∨ c = '\x7d') (s : Text) :
  Stops (c :: s)
  := by
  rintro _ ⟨⟩
  exact stop

theorem Gap.stops {gap rest : Text} (blank : Gap gap) (stops : Stops rest) :
  Stops (gap ++ rest)
  := by
  cases gap with
  | nil => exact stops
  | cons c gap => exact stops_cons (.inl (blank c List.mem_cons_self)) _

theorem Gap.stops_self {gap : Text} (blank : Gap gap) :
  Stops gap
  := by
  rw [← List.append_nil gap]
  exact blank.stops stops_nil

/-- No number goes on where a value ends. -/
theorem Stops.noNumber {c : Char} {s : Text} (stops : Stops (c :: s)) :
  c.isDigit = false ∧ c ≠ '.' ∧ c ≠ 'e' ∧ c ≠ 'E'
  := by
  have stop := stops c rfl
  simp only [isGap, Bool.or_eq_true, decide_eq_true_eq] at stop
  rcases stop with (((rfl | rfl) | rfl) | rfl) | rfl | rfl | rfl <;> decide

/-- Whatever is read, nothing beyond the rest is. -/
def Ends {α : Type} (rest : Text) (scanned : Except Stop (α × Text)) : Prop :=
  ∀ p, scanned = .ok p → p.2 = rest

theorem ends_error {α : Type} (rest : Text) (e : Stop) :
  Ends rest (.error e : Except Stop (α × Text))
  := nofun

theorem ends_ok {α : Type} (a : α) (rest : Text) :
  Ends rest (.ok (a, rest) : Except Stop (α × Text))
  := by
  rintro p ⟨⟩
  rfl

/-! ### Numbers -/

/-- Only digits. -/
def Digital (ds : Text) : Prop :=
  ∀ c ∈ ds, c.isDigit = true

theorem ne_of_isDigit {c d : Char} (digit : c.isDigit = true) (other : d.isDigit = false) :
  c ≠ d
  := by
  rintro rfl
  exact Bool.noConfusion (digit.symm.trans other)

theorem isGap_of_isDigit {c : Char} (digit : c.isDigit = true) :
  isGap c = false
  := by
  have space := ne_of_isDigit digit (show ' '.isDigit = false from rfl)
  have line := ne_of_isDigit digit (show '\n'.isDigit = false from rfl)
  have tab := ne_of_isDigit digit (show '\t'.isDigit = false from rfl)
  have return' := ne_of_isDigit digit (show '\r'.isDigit = false from rfl)
  simp [isGap, space, line, tab, return']

theorem spanDigits_append {ds rest : Text} (digital : Digital ds)
    (ends : ∀ c ∈ rest.head?, c.isDigit = false) :
  spanDigits (ds ++ rest) = (ds, rest)
  := by
  have past : rest.takeWhile Char.isDigit = [] ∧ rest.dropWhile Char.isDigit = rest := by
    cases rest with
    | nil => exact ⟨rfl, rfl⟩
    | cons c rest =>
        have noDigit := ends c rfl
        simp [noDigit]
  rw [spanDigits, List.takeWhile_append_of_pos digital, List.dropWhile_append_of_pos digital, past.1,
    past.2, List.append_nil]

/-- The exponent of a number as it is written. -/
structure Exponent where
  mark : Char
  sign : Text
  digits : Text
  marked : mark = 'e' ∨ mark = 'E'
  known : sign = [] ∨ sign = ['+'] ∨ sign = ['-']
  some : digits ≠ []
  digital : Digital digits

/-- A number as it is written. Without a need no zero stands before its digits. -/
structure Numeral where
  negative : Bool
  lead : Char
  digits : Text
  fraction : Option Text
  exponent : Option Exponent
  digital : Digital (lead :: digits)
  noZero : lead = '0' → digits = []
  fractional : ∀ ds ∈ fraction, ds ≠ [] ∧ Digital ds

def Exponent.text (e : Exponent) : Text :=
  e.mark :: (e.sign ++ e.digits)

namespace Numeral

/-- The exponent of the number, if it has any. -/
def scale (n : Numeral) : Text :=
  (n.exponent.map Exponent.text).getD []

/-- The point and the digits behind it, if there are any. -/
def decimals (n : Numeral) : Text :=
  (n.fraction.map fun ds => '.' :: ds).getD []

/-- The number without its sign. -/
def magnitude (n : Numeral) : Text :=
  n.lead :: (n.digits ++ (n.decimals ++ n.scale))

/-- The number as it is written. -/
def text (n : Numeral) : Text :=
  if n.negative then '-' :: n.magnitude else n.magnitude

end Numeral

section Numbers

variable {rest : Text} (stops : Stops rest) (positive : Bool) (significand : Nat) (start : Int)

theorem scaled_ends :
  Ends rest (scaled positive significand start rest)
  := by
  unfold scaled
  split
  · exact ends_ok _ _
  · exact ends_error _ _

theorem Stops.noDigit (stops : Stops rest) :
  ∀ c ∈ rest.head?, c.isDigit = false
  := by
  cases rest with
  | nil => nofun
  | cons c rest =>
      rintro _ ⟨⟩
      exact stops.noNumber.1

include stops

theorem Exponent.scanExponent_ends (e : Exponent) :
  Ends rest (scanExponent positive significand start (e.sign ++ (e.digits ++ rest)))
  := by
  obtain ⟨mark, sign, digits, -, known, some, digital⟩ := e
  cases digits with
  | nil => exact absurd rfl some
  | cons d ds =>
      rw [Digital, List.forall_mem_cons] at digital
      have noPlus := ne_of_isDigit digital.1 (show '+'.isDigit = false from rfl)
      have noMinus := ne_of_isDigit digital.1 (show '-'.isDigit = false from rfl)
      rcases known with rfl | rfl | rfl <;>
        simp only [scanExponent, List.nil_append, List.cons_append, digital.1,
          spanDigits_append digital.2 stops.noDigit, Bool.not_true, Bool.false_eq_true, ↓reduceIte,
          List.cons.injEq, noPlus, noMinus, false_and, imp_self, implies_true]
      all_goals
        split
        · exact scaled_ends _ _ _
        · split
          · exact ends_error _ _
          · exact ends_ok _ _

theorem Exponent.skipExponent_eq (e : Exponent) :
  skipExponent (e.sign ++ (e.digits ++ rest)) = .ok rest
  := by
  obtain ⟨mark, sign, digits, -, known, some, digital⟩ := e
  cases digits with
  | nil => exact absurd rfl some
  | cons d ds =>
      rw [Digital, List.forall_mem_cons] at digital
      have noPlus := ne_of_isDigit digital.1 (show '+'.isDigit = false from rfl)
      have noMinus := ne_of_isDigit digital.1 (show '-'.isDigit = false from rfl)
      rcases known with rfl | rfl | rfl <;>
        simp only [skipExponent, List.nil_append, List.cons_append, digital.1,
          spanDigits_append digital.2 stops.noDigit, ↓reduceIte,
          List.cons.injEq, noPlus, noMinus, false_and, imp_self, implies_true]

/-- What stands behind the digits of a number: nothing that belongs to it, or its exponent. -/
inductive Tail (rest : Text) : Text → Prop where
  | ends (noPoint : ∀ s, rest ≠ '.' :: s) (noSmall : ∀ s, rest ≠ 'e' :: s)
    (noLarge : ∀ s, rest ≠ 'E' :: s) : Tail rest rest
  | small (e : Exponent) : Tail rest ('e' :: (e.sign ++ (e.digits ++ rest)))
  | large (e : Exponent) : Tail rest ('E' :: (e.sign ++ (e.digits ++ rest)))

namespace Numeral

variable (n : Numeral)

theorem tail :
  Tail rest (n.scale ++ rest)
  := by
  unfold scale
  cases n.exponent with
  | none =>
      refine .ends ?_ ?_ ?_ <;> rintro s rfl
      · exact stops.noNumber.2.1 rfl
      · exact stops.noNumber.2.2.1 rfl
      · exact stops.noNumber.2.2.2 rfl
  | some e =>
      rcases e.marked with same | same <;>
        simp only [Option.map_some, Option.getD_some, Exponent.text, same, List.cons_append,
          List.append_assoc]
      · exact .small e
      · exact .large e

/-- No more digits stand behind those of a fraction. -/
theorem noDigit_scale :
  ∀ c ∈ (n.scale ++ rest).head?, c.isDigit = false
  := by
  have tail := n.tail stops
  generalize n.scale ++ rest = t at tail
  cases tail with
  | ends => exact stops.noDigit
  | small e =>
      rintro _ ⟨⟩
      rfl
  | large e =>
      rintro _ ⟨⟩
      rfl

/-- No more digits stand behind those of the whole part. -/
theorem noDigit_decimals :
  ∀ c ∈ (n.decimals ++ (n.scale ++ rest)).head?, c.isDigit = false
  := by
  unfold decimals
  cases n.fraction with
  | none => exact n.noDigit_scale stops
  | some ds =>
      rintro _ ⟨⟩
      rfl

omit stops in
theorem noZero_eq :
  (n.lead = '0' && !n.digits.isEmpty) = false
  := by
  have noZero := n.noZero
  simpa using noZero

theorem scanFraction_ends {ds : Text} (digital : Digital ds) :
  Ends rest (scanFraction positive significand start (ds ++ (n.scale ++ rest)))
  := by
  simp only [scanFraction, spanDigits_append digital (n.noDigit_scale stops)]
  have tail := n.tail stops
  generalize n.scale ++ rest = t at tail
  split
  case isTrue => exact ends_error _ _
  case isFalse =>
    cases tail with
    | small e => exact e.scanExponent_ends stops _ _ _
    | large e => exact e.scanExponent_ends stops _ _ _
    | ends noPoint noSmall noLarge =>
        split
        · exact absurd rfl (noSmall _)
        · exact absurd rfl (noLarge _)
        · exact scaled_ends _ _ _

/-- A number is read to its end or refused. -/
theorem scanNumber_ends :
  Ends rest (scanNumber positive (n.magnitude ++ rest))
  := by
  have digital := n.digital
  rw [Digital, List.forall_mem_cons] at digital
  have spans := spanDigits_append digital.2 (n.noDigit_decimals stops)
  simp only [magnitude, List.cons_append, List.append_assoc, scanNumber, digital.1, spans,
    n.noZero_eq, Bool.not_true, Bool.false_eq_true, ↓reduceIte]
  unfold decimals
  cases fraction : n.fraction with
  | some ds =>
      simp only [Option.map_some, Option.getD_some, List.cons_append]
      exact n.scanFraction_ends stops _ _ _ (n.fractional ds fraction).2
  | none =>
      have tail := n.tail stops
      rw [Option.map_none, Option.getD_none, List.nil_append]
      generalize n.scale ++ rest = t at tail
      cases tail with
      | small e => exact e.scanExponent_ends stops _ _ _
      | large e => exact e.scanExponent_ends stops _ _ _
      | ends noPoint noSmall noLarge =>
          split
          · exact absurd rfl (noPoint _)
          · exact absurd rfl (noSmall _)
          · exact absurd rfl (noLarge _)
          · split
            · exact ends_ok _ _
            · exact scaled_ends _ _ _

/-- A number is passed over. -/
theorem skipNumber_eq :
  skipNumber (n.magnitude ++ rest) = .ok rest
  := by
  have digital := n.digital
  rw [Digital, List.forall_mem_cons] at digital
  have spans := spanDigits_append digital.2 (n.noDigit_decimals stops)
  simp only [magnitude, List.cons_append, List.append_assoc, skipNumber, digital.1, spans,
    n.noZero_eq, Bool.not_true, Bool.false_eq_true, ↓reduceIte]
  unfold decimals
  have tail := n.tail stops
  cases fraction : n.fraction with
  | some ds =>
      obtain ⟨some, fractional⟩ := n.fractional ds fraction
      have spans := spanDigits_append fractional (n.noDigit_scale stops)
      simp only [Option.map_some, Option.getD_some, List.cons_append, spans, List.isEmpty_iff, some,
        ↓reduceIte]
      generalize n.scale ++ rest = t at tail
      cases tail with
      | small e => exact e.skipExponent_eq stops
      | large e => exact e.skipExponent_eq stops
      | ends noPoint noSmall noLarge =>
          split
          · exact absurd rfl (noSmall _)
          · exact absurd rfl (noLarge _)
          · rfl
  | none =>
      rw [Option.map_none, Option.getD_none, List.nil_append]
      generalize n.scale ++ rest = t at tail
      cases tail with
      | small e => exact e.skipExponent_eq stops
      | large e => exact e.skipExponent_eq stops
      | ends noPoint noSmall noLarge =>
          split
          · exact absurd rfl (noPoint _)
          · exact absurd rfl (noSmall _)
          · exact absurd rfl (noLarge _)
          · rfl

end Numeral

end Numbers

/-! ### Decimal numbers -/

theorem ofNat_eq (n : Nat) :
  Text.ofNat n = Nat.toDigits 10 n
  := by
  simp [Text.ofNat, Nat.repr]

theorem ofNat_ne_nil (n : Nat) :
  Text.ofNat n ≠ []
  := by
  rw [ofNat_eq]
  exact Nat.toDigits_ne_nil

theorem digital_ofNat (n : Nat) :
  Digital (Text.ofNat n)
  := by
  rw [ofNat_eq]
  intro c
  exact Nat.isDigit_of_mem_toDigits (by decide) (by decide)

/-- No zero stands before the digits of a number. -/
theorem eq_nil_of_ofNat {n : Nat} {ds : Text} (digits : Text.ofNat n = '0' :: ds) :
  ds = []
  := by
  rw [ofNat_eq] at digits
  induction n using Nat.strongRecOn generalizing ds with
  | ind n ih =>
      rcases Nat.lt_or_ge n 10 with small | large
      · rw [Nat.toDigits_of_lt_base small] at digits
        exact (List.cons.inj digits).2.symm
      · rw [Nat.toDigits_of_base_le (by decide) large] at digits
        have smaller : n / 10 < n := Nat.div_lt_self (by omega) (by decide)
        obtain ⟨ds', first⟩ : ∃ ds', Nat.toDigits 10 (n / 10) = '0' :: ds' := by
          cases first : Nat.toDigits 10 (n / 10) with
          | nil => exact absurd first Nat.toDigits_ne_nil
          | cons c ds' =>
              rw [first] at digits
              exact ⟨ds', by rw [(List.cons.inj digits).1]⟩
        obtain rfl := ih _ smaller first
        have value := @Nat.ofDigitChars_ten_toDigits (n / 10)
        rw [first] at value
        have zero : n / 10 = 0 := value.symm
        omega

/-- Digits are taken as the number that they are, if it fits. -/
theorem takeDigits_eq {ds : Text} {significand : Nat} (taken : Nat)
    (fits : Nat.ofDigitChars 10 ds significand ≤ maxWord) :
  takeDigits significand taken ds = (Nat.ofDigitChars 10 ds significand, taken + ds.length, [])
  := by
  induction ds generalizing significand taken with
  | nil => simp [takeDigits]
  | cons d ds ih =>
      have value : 10 * significand + (d.toNat - '0'.toNat) = significand * 10 + digitValue d :=
        congrArg (· + digitValue d) (Nat.mul_comm _ _)
      rw [Nat.ofDigitChars_cons, value] at fits ⊢
      have least : significand * 10 + digitValue d ≤ maxWord := by
        rw [Nat.ofDigitChars_eq_ofDigitChars_zero] at fits
        have grows := Nat.le_mul_of_pos_left (significand * 10 + digitValue d)
          (Nat.pow_pos (by decide : 0 < 10) : 0 < 10 ^ ds.length)
        omega
      rw [takeDigits, if_neg (Nat.not_lt.mpr least), ih _ fits, List.length_cons]
      simp only [Prod.mk.injEq, and_true, true_and]
      omega

/-- A number that fits is read from its digits. -/
theorem scanNumber_ofNat {n : Nat} (fits : n ≤ maxWord) {rest : Text} (stops : Stops rest) :
  scanNumber true (Text.ofNat n ++ rest) = .ok (.whole n, rest)
  := by
  have digital := digital_ofNat n
  have noZero := @eq_nil_of_ofNat n
  have value : Nat.ofDigitChars 10 (Text.ofNat n) 0 = n := by
    rw [ofNat_eq, Nat.ofDigitChars_ten_toDigits]
  have some := ofNat_ne_nil n
  generalize Text.ofNat n = ds at digital noZero value some
  cases ds with
  | nil => exact absurd rfl some
  | cons d ds =>
      rw [Digital, List.forall_mem_cons] at digital
      rw [Nat.ofDigitChars_cons, Nat.mul_zero, Nat.zero_add] at value
      have value : Nat.ofDigitChars 10 ds (digitValue d) = n := value
      have taken := takeDigits_eq 0 (value.le.trans fits)
      have zero : (d = '0' && !ds.isEmpty) = false := by
        rw [Bool.and_eq_false_imp, decide_eq_true_eq]
        rintro rfl
        rw [noZero rfl]
        rfl
      simp only [List.cons_append, scanNumber, digital.1, spanDigits_append digital.2 stops.noDigit,
        zero, taken, value, Bool.not_true, Bool.false_eq_true, ↓reduceIte, List.isEmpty_nil,
        wholeNumber]
      split
      · exact absurd rfl stops.noNumber.2.1
      · exact absurd rfl stops.noNumber.2.2.1
      · exact absurd rfl stops.noNumber.2.2.2
      · rfl

end Json

end NotebookEngine
