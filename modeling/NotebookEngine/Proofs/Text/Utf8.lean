import Mathlib.Algebra.Ring.Nat
import Mathlib.Data.List.Basic
import NotebookEngine.Text.Utf8

/-!
# Reading UTF-8

An octet sequence consists of characters and of maximal ill-formed parts between them, in exactly
one way (`Divides`, `Divides.unique`). The reader meets those parts in their order
(`marks_of_divides`): after some octets it holds the beginning of a character, and knows which
characters begin so (`Begun`, `Reader.Holds`). A text written in UTF-8 is read back
(`decodeLossy_encode`).
-/

namespace NotebookEngine

namespace Utf8

/-! ### The parts of an octet sequence -/

/-- The octets begin the form of a character. -/
def Opens (u : Bytes) : Prop :=
  ∃ c, u <+: String.utf8EncodeChar c

/-- The octets are a maximal ill-formed part before others: no character begins with them, and they
are the longest beginning of a character there is, or a single octet that begins none. -/
structure IllFormed (bad rest : Bytes) : Prop where
  ne_nil : bad ≠ []
  noCharacter : ∀ c, ¬String.utf8EncodeChar c <+: bad ++ rest
  opens : Opens bad ∨ bad.length = 1
  maximal : ∀ b ∈ rest.head?, ¬Opens (bad ++ [b])

/-- A part of an octet sequence: a character or an ill-formed part. -/
inductive Part where
  | character (c : Char)
  | broken (octets : Bytes)

namespace Part

/-- The octets of the part. -/
def octets : Part → Bytes
  | character c => String.utf8EncodeChar c
  | broken octets => octets

/-- The part as the reader notes it. -/
def mark : Part → Option Char
  | character c => some c
  | broken _ => none

/-- The part as it is shown in a text. -/
def shown : Part → Char
  | character c => c
  | broken _ => '\uFFFD'

theorem mark_getD (p : Part) :
  p.mark.getD '\uFFFD' = p.shown
  := by
  cases p <;> rfl

end Part

/-- An octet sequence is divided into characters and maximal ill-formed parts. -/
inductive Divides : List Part → Bytes → Prop where
  | nil : Divides [] []
  | character {ps : List Part} {rest : Bytes} (c : Char) (divides : Divides ps rest) :
      Divides (.character c :: ps) (String.utf8EncodeChar c ++ rest)
  | broken {ps : List Part} {bad rest : Bytes} (illFormed : IllFormed bad rest)
      (divides : Divides ps rest) : Divides (.broken bad :: ps) (bad ++ rest)

/-! ### The form of a character -/

/-- The last octets of the form of the character numbered `v`, with six bits each. -/
def trail : Nat → Nat → Bytes
  | 0, _ => []
  | k + 1, v => UInt8.ofNat (0x80 + v / 64 ^ k % 64) :: trail k v

/-- How many octets follow the first one in the form of the character numbered `v`. -/
def width (v : Nat) : Nat :=
  if v < 0x80 then 0 else if v < 0x800 then 1 else if v < 0x10000 then 2 else 3

/-- What the first octet says of the number of octets behind it. -/
def marker : Nat → Nat
  | 0 => 0
  | 1 => 0xC0
  | 2 => 0xE0
  | _ => 0xF0

@[simp] theorem length_trail (k v : Nat) :
  (trail k v).length = k
  := by
  induction k with
  | zero => rfl
  | succ k ih => rw [trail, List.length_cons, ih]

theorem width_cases (v : Nat) :
  (v < 0x80 ∧ width v = 0) ∨ (0x80 ≤ v ∧ v < 0x800 ∧ width v = 1)
    ∨ (0x800 ≤ v ∧ v < 0x10000 ∧ width v = 2) ∨ (0x10000 ≤ v ∧ width v = 3)
  := by
  unfold width
  split_ifs <;> simp <;> omega

theorem toNat_valid (c : Char) :
  c.toNat < 0xD800 ∨ 0xDFFF < c.toNat ∧ c.toNat < 0x110000
  := c.valid

theorem utf8EncodeChar_eq (c : Char) :
  String.utf8EncodeChar c
    = UInt8.ofNat (marker (width c.toNat) + c.toNat / 64 ^ width c.toNat)
      :: trail (width c.toNat) c.toNat
  := by
  have valid := toNat_valid c
  have value : c.val.toNat = c.toNat := rfl
  simp only [String.utf8EncodeChar, value]
  rcases width_cases c.toNat with
    ⟨above, w⟩ | ⟨below, above, w⟩ | ⟨below, above, w⟩ | ⟨below, w⟩
  · rw [if_pos (by omega), w]
    simp [marker, trail]
  · have first : c.toNat / 64 % 32 + 192 = 192 + c.toNat / 64 := by omega
    rw [if_neg (by omega), if_pos (by omega), w, first]
    simp [marker, trail, Nat.add_comm]
  · have first : c.toNat / 4096 % 16 + 224 = 224 + c.toNat / 4096 := by omega
    rw [if_neg (by omega), if_neg (by omega), if_pos (by omega), w, first]
    simp [marker, trail, Nat.add_comm]
  · have first : c.toNat / 262144 % 8 + 240 = 240 + c.toNat / 262144 := by omega
    rw [if_neg (by omega), if_neg (by omega), if_neg (by omega), w, first]
    simp [marker, trail, Nat.add_comm]

/-- The first octet of a character says how many follow. -/
theorem toNat_first {b : UInt8} {c : Char} (first : [b] <+: String.utf8EncodeChar c) :
  b.toNat = marker (width c.toNat) + c.toNat / 64 ^ width c.toNat
  := by
  have valid := toNat_valid c
  rw [utf8EncodeChar_eq, List.cons_prefix_cons] at first
  rw [first.1, UInt8.toNat_ofNat']
  apply Nat.mod_eq_of_lt
  rcases width_cases c.toNat with
    ⟨above, w⟩ | ⟨below, above, w⟩ | ⟨below, above, w⟩ | ⟨below, w⟩ <;>
    simp only [w, marker] <;> omega

/-! ### A character begun -/

/-- The number `v` can be that of the character begun: it begins with the bits read, and its next
octet is within the bounds. -/
structure Pending.Admits (p : Pending) (v : Nat) : Prop where
  bits : v / 64 ^ p.owed = p.bits
  low : p.low ≤ 0x80 + v / 64 ^ (p.owed - 1) % 64
  high : 0x80 + v / 64 ^ (p.owed - 1) % 64 ≤ p.high

/-- One to three octets are owed, and the next one has six bits and a mark. -/
structure Pending.Bounded (p : Pending) : Prop where
  owed : 0 < p.owed
  few : p.owed ≤ 3
  low : 0x80 ≤ p.low
  ordered : p.low ≤ p.high
  high : p.high ≤ 0xBF

theorem Pending.admits_iff {p : Pending} {v : Nat} :
  p.Admits v ↔ v / 64 ^ p.owed = p.bits ∧ p.low ≤ 0x80 + v / 64 ^ (p.owed - 1) % 64
    ∧ 0x80 + v / 64 ^ (p.owed - 1) % 64 ≤ p.high
  := ⟨fun ⟨bits, low, high⟩ => ⟨bits, low, high⟩, fun ⟨bits, low, high⟩ => ⟨bits, low, high⟩⟩

/-- The octets `u` begin exactly the characters whose numbers are admitted, and are none of them. -/
structure Begun (u : Bytes) (p : Pending) : Prop where
  ne_nil : u ≠ []
  bounded : p.Bounded
  noCharacter : ∀ c, ¬String.utf8EncodeChar c <+: u
  sound : ∀ v, p.Admits v →
    v.isValidChar ∧ String.utf8EncodeChar (Char.ofNat v) = u ++ trail p.owed v
  complete : ∀ c, u <+: String.utf8EncodeChar c → p.Admits c.toNat

/-- The octet is what it is taken for as the first one of a character. -/
inductive Leads (b : UInt8) : Lead → Prop where
  | whole (c : Char) (form : String.utf8EncodeChar c = [b]) : Leads b (.whole c)
  | begun (p : Pending) (begun : Begun [b] p) : Leads b (.begun p)
  | broken (noCharacter : ∀ c, ¬[b] <+: String.utf8EncodeChar c) : Leads b .broken

theorem toNat_ofNat {v : Nat} (valid : v.isValidChar) :
  (Char.ofNat v).toNat = v
  := by
  rw [Char.ofNat, dif_pos valid]
  rfl

/-- A first octet begins the characters of a width that have its bits. -/
theorem begun_first {b : UInt8} {p : Pending} (bounded : p.Bounded)
    (first : b.toNat = marker p.owed + p.bits) (bits : p.bits < 64 / 2 ^ p.owed)
    (admits : ∀ v, p.Admits v ↔ v.isValidChar ∧ width v = p.owed ∧ v / 64 ^ p.owed = p.bits) :
  Begun [b] p
  := by
  have begun {c : Char} (begun : [b] <+: String.utf8EncodeChar c) :
      width c.toNat = p.owed ∧ c.toNat / 64 ^ p.owed = p.bits := by
    have same := toNat_first begun
    have valid := toNat_valid c
    have owed := bounded.owed
    have few := bounded.few
    generalize p.owed = k at *
    obtain rfl | rfl | rfl : k = 1 ∨ k = 2 ∨ k = 3 := by omega
    all_goals
      simp only [marker, Nat.reducePow, Nat.reduceDiv] at first bits ⊢
      rcases width_cases c.toNat with
        ⟨above, w⟩ | ⟨below, above, w⟩ | ⟨below, above, w⟩ | ⟨below, w⟩ <;>
        simp only [w, marker, Nat.reducePow, true_and] at same ⊢ <;> omega
  refine ⟨List.cons_ne_nil _ _, bounded, ?_, ?_, ?_⟩
  case refine_1 =>
    intro c form
    have length := form.length_le
    rw [utf8EncodeChar_eq] at form length
    rw [List.cons_prefix_cons] at form
    have first : [b] <+: String.utf8EncodeChar c := by
      rw [utf8EncodeChar_eq, form.1]
      exact List.prefix_append [b] _
    have owed := bounded.owed
    rw [List.length_cons, length_trail, (begun first).1, List.length_singleton] at length
    omega
  case refine_2 =>
    intro v admitted
    obtain ⟨valid, w, -⟩ := (admits v).mp admitted
    refine ⟨valid, ?_⟩
    rw [utf8EncodeChar_eq, toNat_ofNat valid, w, admitted.bits, ← first, UInt8.ofNat_toNat]
    rfl
  case refine_3 =>
    intro c first
    exact (admits c.toNat).mpr ⟨c.valid, begun first⟩

theorem leads (b : UInt8) :
  Leads b (lead b)
  := by
  have small := b.toNat_lt
  unfold lead
  simp only [Bool.and_eq_true, decide_eq_true_eq]
  split_ifs
  case pos h =>
    have valid : b.toNat.isValidChar := by unfold Nat.isValidChar; omega
    apply Leads.whole
    rw [utf8EncodeChar_eq, toNat_ofNat valid, width, if_pos h]
    simp [marker, trail]
  case neg =>
    apply Leads.broken
    intro c begun
    have same := toNat_first begun
    have valid := toNat_valid c
    rcases width_cases c.toNat with
      ⟨above, w⟩ | ⟨below, above, w⟩ | ⟨below, above, w⟩ | ⟨below, w⟩ <;>
      simp only [w, marker, Nat.reducePow] at same <;> omega
  all_goals
    refine .begun _ (begun_first ⟨by simp, by simp, by simp, by simp, by simp⟩ ?_ ?_ ?_)
    case refine_1 => simp only [marker]; omega
    case refine_2 => simp only [Nat.reducePow, Nat.reduceDiv]; omega
    case refine_3 =>
      intro v
      have := width_cases v
      simp only [Pending.admits_iff, Nat.isValidChar, Nat.reducePow, Nat.reduceSub, Nat.div_one]
      omega

/-! ### Going on with a character -/

namespace Begun

variable {u : Bytes} {p : Pending}

theorem exists_owed (begun : Begun u p) :
  ∃ k, p.owed = k + 1
  := Nat.exists_eq_succ_of_ne_zero (Nat.ne_of_gt begun.bounded.owed)

/-- What begins a character is the beginning of one. -/
theorem opens (begun : Begun u p) :
  Opens u
  := by
  obtain ⟨k, owed⟩ := begun.exists_owed
  have low := begun.bounded.low
  have ordered := begun.bounded.ordered
  have high := begun.bounded.high
  -- The least number that is admitted.
  let v := (p.bits * 64 + (p.low - 0x80)) * 64 ^ k
  have bits : v / 64 ^ k = p.bits * 64 + (p.low - 0x80) :=
    Nat.mul_div_cancel _ (Nat.pow_pos (by decide))
  have admits : p.Admits v := by
    rw [Pending.admits_iff, owed, Nat.pow_succ, ← Nat.div_div_eq_div_mul, Nat.add_sub_cancel, bits]
    omega
  exact ⟨Char.ofNat v, (begun.sound v admits).2 ▸ List.prefix_append u _⟩

/-- The octets of a character begun that are still owed. -/
theorem form (begun : Begun u p) {c : Char} (begins : u <+: String.utf8EncodeChar c) :
  String.utf8EncodeChar c = u ++ trail p.owed c.toNat
  := by
  have form := (begun.sound c.toNat (begun.complete c begins)).2
  rwa [Char.ofNat_toNat] at form

/-- The next octet of a character begun has six bits of its number. -/
theorem toNat_next (begun : Begun u p) {b : UInt8} {c : Char}
    (begins : u ++ [b] <+: String.utf8EncodeChar c) :
  p.Admits c.toNat ∧ b.toNat = 0x80 + c.toNat / 64 ^ (p.owed - 1) % 64
  := by
  have opens : u <+: String.utf8EncodeChar c := (List.prefix_append u [b]).trans begins
  refine ⟨begun.complete c opens, ?_⟩
  obtain ⟨k, owed⟩ := begun.exists_owed
  rw [begun.form opens, List.prefix_append_right_inj, owed, trail, List.cons_prefix_cons] at begins
  have small : c.toNat / 64 ^ k % 64 < 64 := Nat.mod_lt _ (by decide)
  rw [begins.1, UInt8.toNat_ofNat', owed, Nat.mod_eq_of_lt (by omega)]
  rfl

/-- An octet out of bounds goes on with no character. -/
theorem not_opens (begun : Begun u p) {b : UInt8} (out : ¬(p.low ≤ b.toNat ∧ b.toNat ≤ p.high)) :
  ¬Opens (u ++ [b])
  := by
  rintro ⟨c, begins⟩
  obtain ⟨admits, next⟩ := begun.toNat_next begins
  exact out ⟨next ▸ admits.low, next ▸ admits.high⟩

/-- A character begun that no octet goes on with is an ill-formed part. -/
theorem illFormed (begun : Begun u p) {rest : Bytes}
    (out : ∀ b ∈ rest.head?, ¬Opens (u ++ [b])) :
  IllFormed u rest
  := by
  refine ⟨begun.ne_nil, ?_, .inl begun.opens, out⟩
  intro c form
  rcases List.prefix_or_prefix_of_prefix form (List.prefix_append u rest) with within | beyond
  · exact begun.noCharacter c within
  · obtain ⟨k, owed⟩ := begun.exists_owed
    rw [begun.form beyond, List.prefix_append_right_inj, owed, trail] at form
    obtain ⟨_, form⟩ := form
    refine out _ (by rw [← form]; rfl) ⟨c, ?_⟩
    rw [begun.form beyond, List.prefix_append_right_inj, owed, trail]
    exact List.prefix_append [_] _

/-- The bits of a number that is admitted with an octet within the bounds. -/
theorem admits_next (begun : Begun u p) {b : UInt8} (low : p.low ≤ b.toNat)
    (high : b.toNat ≤ p.high) {k v : Nat} (owed : p.owed = k + 1)
    (bits : v / 64 ^ k = p.bits * 64 + (b.toNat - 0x80)) :
  p.Admits v
  := by
  have above := begun.bounded.low
  have below := begun.bounded.high
  rw [Pending.admits_iff, owed, Nat.pow_succ, ← Nat.div_div_eq_div_mul, Nat.add_sub_cancel, bits]
  omega

/-- The last octet owed ends a character. -/
theorem last (begun : Begun u p) {b : UInt8} (low : p.low ≤ b.toNat) (high : b.toNat ≤ p.high)
    (owed : p.owed ≤ 1) :
  String.utf8EncodeChar (Char.ofNat (p.bits * 64 + (b.toNat - 0x80))) = u ++ [b]
  := by
  have one : p.owed = 1 := Nat.le_antisymm owed begun.bounded.owed
  have admits := begun.admits_next low high one
    (Nat.div_one (p.bits * 64 + (b.toNat - 0x80)))
  have above := begun.bounded.low
  have below := begun.bounded.high
  have octet : 0x80 + (p.bits * 64 + (b.toNat - 0x80)) % 64 = b.toNat := by omega
  rw [(begun.sound _ admits).2, one, trail, Nat.pow_zero, Nat.div_one, octet, UInt8.ofNat_toNat]
  rfl

/-- An octet within the bounds goes on with the character. -/
theorem next (begun : Begun u p) {b : UInt8} (low : p.low ≤ b.toNat) (high : b.toNat ≤ p.high)
    (owed : 1 < p.owed) :
  Begun (u ++ [b]) ⟨p.bits * 64 + (b.toNat - 0x80), p.owed - 1, 0x80, 0xBF⟩
  := by
  obtain ⟨k, rest⟩ := begun.exists_owed
  have above := begun.bounded.low
  have below := begun.bounded.high
  have few : k ≤ 3 := by
    have few := begun.bounded.few
    omega
  rw [rest, Nat.add_sub_cancel]
  rw [rest] at owed
  refine ⟨by simp, ⟨Nat.lt_of_succ_lt_succ owed, few, by simp, by simp, by simp⟩, ?_, ?_, ?_⟩
  case refine_1 =>
    intro c form
    rcases List.prefix_concat_iff.mp form with whole | within
    · have length := congrArg List.length (begun.form (whole ▸ List.prefix_append u [b]))
      rw [whole, List.length_append, List.length_append, length_trail] at length
      simp only [List.length_singleton] at length
      omega
    · exact begun.noCharacter c within
  case refine_2 =>
    intro v admits
    have bits : v / 64 ^ k = p.bits * 64 + (b.toNat - 0x80) := admits.bits
    obtain ⟨valid, form⟩ := begun.sound v (begun.admits_next low high rest bits)
    have octet : 0x80 + v / 64 ^ k % 64 = b.toNat := by
      rw [bits]
      omega
    refine ⟨valid, ?_⟩
    rw [form, rest, trail, octet, UInt8.ofNat_toNat, List.append_assoc]
    rfl
  case refine_3 =>
    intro c begins
    obtain ⟨admits, next⟩ := begun.toNat_next begins
    have bits := admits.bits
    rw [rest, Nat.pow_succ, ← Nat.div_div_eq_div_mul] at bits
    rw [rest, Nat.add_sub_cancel] at next
    have later : c.toNat / 64 ^ (k - 1) % 64 < 64 := Nat.mod_lt _ (by decide)
    rw [Pending.admits_iff]
    dsimp only
    omega

end Begun

/-! ### The reader -/

namespace Reader

/-- The reader holds octets: none after a whole part, or those of a character begun. -/
inductive Holds : Reader → Bytes → Prop where
  | nothing (met : List (Option Char)) : Holds ⟨met, none⟩ []
  | begun {u : Bytes} {p : Pending} (met : List (Option Char)) (begun : Begun u p) :
      Holds ⟨met, some p⟩ u

/-- The reader, with `u` behind the parts it has met, takes the octets `bs`: it meets further parts
and then holds `u'`. -/
structure Takes (r : Reader) (u bs : Bytes) (r' : Reader) (u' : Bytes) (ps : List Part) :
    Prop where
  met : r'.met = (ps.map Part.mark).reverse ++ r.met
  holds : r'.Holds u'
  divides : ∀ qs rest, Divides qs (u' ++ rest) → Divides (ps ++ qs) (u ++ bs ++ rest)

theorem Takes.refl {r : Reader} {u : Bytes} (holds : r.Holds u) :
  r.Takes u [] r u []
  := ⟨rfl, holds, fun qs rest divides => by rwa [List.append_nil]⟩

theorem Takes.trans {r r' r'' : Reader} {u u' u'' bs cs : Bytes} {ps qs : List Part}
    (before : r.Takes u bs r' u' ps) (after : r'.Takes u' cs r'' u'' qs) :
  r.Takes u (bs ++ cs) r'' u'' (ps ++ qs)
  := by
  refine ⟨?_, after.holds, ?_⟩
  · rw [after.met, before.met, List.map_append, List.reverse_append, List.append_assoc]
  · intro parts rest divides
    have divides := before.divides _ _ (List.append_assoc u' cs rest ▸ after.divides _ _ divides)
    simpa only [List.append_assoc] using divides

/-- An octet that no character begins with is an ill-formed part by itself. -/
theorem illFormed_first {b : UInt8} (noCharacter : ∀ c, ¬[b] <+: String.utf8EncodeChar c)
    (rest : Bytes) :
  IllFormed [b] rest
  := by
  refine ⟨List.cons_ne_nil _ _, ?_, .inr rfl, ?_⟩
  · intro c form
    apply noCharacter c
    rw [utf8EncodeChar_eq] at form ⊢
    rw [List.singleton_append, List.cons_prefix_cons] at form
    rw [form.1]
    exact List.prefix_append [b] _
  · rintro d - ⟨c, begins⟩
    exact noCharacter c ((List.prefix_append [b] [d]).trans begins)

/-- An octet is taken as the first one of a part. -/
theorem takes_first (met : List (Option Char)) (b : UInt8) :
  ∃ u ps, Takes ⟨met, none⟩ [] [b] (first met b) u ps
  := by
  have leads := leads b
  unfold first
  generalize lead b = l at leads
  cases leads with
  | whole c form =>
      refine ⟨[], [.character c], rfl, .nothing _, ?_⟩
      intro qs rest divides
      exact form ▸ .character c divides
  | begun p begun => exact ⟨[b], [], rfl, .begun met begun, fun qs rest => id⟩
  | broken noCharacter =>
      refine ⟨[], [.broken [b]], rfl, .nothing _, ?_⟩
      intro qs rest divides
      exact .broken (illFormed_first noCharacter rest) divides

/-- An octet is taken behind those held. -/
theorem takes_next {r : Reader} {u : Bytes} (holds : r.Holds u) (b : UInt8) :
  ∃ u' ps, r.Takes u [b] (r.next b) u' ps
  := by
  cases holds with
  | nothing met => exact takes_first met b
  | @begun _ p met begun =>
      simp only [next, Bool.and_eq_true, decide_eq_true_eq]
      split
      case isTrue within =>
        obtain ⟨low, high⟩ := within
        split
        case isTrue owed =>
          refine ⟨[], [.character _], rfl, .nothing _, ?_⟩
          intro qs rest divides
          rw [← begun.last low high owed]
          exact .character _ divides
        case isFalse owed =>
          exact ⟨u ++ [b], [], rfl, .begun met (begun.next low high (Nat.lt_of_not_le owed)),
            fun qs rest => id⟩
      case isFalse out =>
        -- The octets held are a part, and the octet is read afresh.
        obtain ⟨u', ps, takes⟩ := takes_first (none :: met) b
        refine ⟨u', .broken u :: ps, ?_, takes.holds, ?_⟩
        · rw [takes.met]
          simp [Part.mark]
        · intro qs rest divides
          have illFormed : IllFormed u (b :: rest) := begun.illFormed (by
            rintro _ ⟨⟩
            exact begun.not_opens out)
          rw [List.append_assoc]
          exact .broken illFormed (takes.divides qs rest divides)

/-- Octets are taken one after the other. -/
theorem takes_foldl {r : Reader} {u : Bytes} (holds : r.Holds u) (bs : Bytes) :
  ∃ u' ps, r.Takes u bs (bs.foldl next r) u' ps
  := by
  induction bs generalizing r u with
  | nil => exact ⟨u, [], .refl holds⟩
  | cons b bs ih =>
      obtain ⟨u', ps, takes⟩ := takes_next holds b
      obtain ⟨u'', qs, takes'⟩ := ih takes.holds
      exact ⟨u'', ps ++ qs, takes.trans takes'⟩

/-- At the end, what is held is an ill-formed part. -/
theorem exists_divides_close {r : Reader} {u : Bytes} (holds : r.Holds u) :
  ∃ ps, Divides ps u ∧ r.close = r.met.reverse ++ ps.map Part.mark
  := by
  cases holds with
  | nothing met => exact ⟨[], .nil, by simp [close]⟩
  | begun met begun =>
      have illFormed : IllFormed u [] := begun.illFormed nofun
      have divides := Divides.broken illFormed .nil
      exact ⟨[.broken u], by rwa [List.append_nil] at divides, by simp [close, Part.mark]⟩

end Reader

/-- Octets are divided into parts, and these are what the reader meets. -/
theorem exists_divides (bs : Bytes) :
  ∃ ps, Divides ps bs ∧ marks bs = ps.map Part.mark
  := by
  obtain ⟨u, ps, takes⟩ := Reader.takes_foldl (.nothing []) bs
  obtain ⟨qs, divides, close⟩ := Reader.exists_divides_close takes.holds
  have divides' := takes.divides qs [] (by rwa [List.append_nil])
  refine ⟨ps ++ qs, by simpa using divides', ?_⟩
  rw [marks, close, takes.met]
  simp

/-! ### The division is the only one -/

/-- The form of a character is not the beginning of another's. -/
theorem eq_of_begins {c d : Char} (begins : String.utf8EncodeChar c <+: String.utf8EncodeChar d) :
  c = d
  := by
  obtain ⟨rest, form⟩ := begins
  have left : ByteArray.utf8DecodeChar? (String.utf8EncodeChar d).toByteArray 0 = some c := by
    rw [← form, List.toByteArray_append]
    exact ByteArray.utf8DecodeChar?_utf8EncodeChar_append
  have right := @ByteArray.utf8DecodeChar?_utf8EncodeChar_append ByteArray.empty d
  rw [ByteArray.append_empty, left] at right
  exact Option.some.inj right

/-- Two characters at the beginning of one octet sequence are one. -/
theorem eq_of_append_eq {c d : Char} {rest rest' : Bytes}
    (same : String.utf8EncodeChar c ++ rest = String.utf8EncodeChar d ++ rest') :
  c = d
  := by
  have left : String.utf8EncodeChar c <+: String.utf8EncodeChar d ++ rest' :=
    same ▸ List.prefix_append _ _
  rcases List.prefix_or_prefix_of_prefix left (List.prefix_append _ _) with begins | begins
  · exact eq_of_begins begins
  · exact (eq_of_begins begins).symm

/-- Of two ill-formed parts at the beginning of one octet sequence, neither is longer. -/
theorem IllFormed.length_le {bad bad' rest rest' : Bytes} (left : IllFormed bad rest)
    (right : IllFormed bad' rest') (same : bad ++ rest = bad' ++ rest') :
  bad'.length ≤ bad.length
  := by
  by_contra longer
  have begins : bad <+: bad' :=
    List.prefix_of_prefix_length_le (same ▸ List.prefix_append bad rest)
      (List.prefix_append bad' rest') (by omega)
  obtain ⟨more, rfl⟩ := begins
  cases more with
  | nil => simp at longer
  | cons b more =>
      rw [List.append_assoc, List.append_cancel_left_eq] at same
      rcases right.opens with ⟨c, opens⟩ | single
      · refine left.maximal b (by rw [same]; rfl) ⟨c, ?_⟩
        rw [List.append_cons] at opens
        exact (List.prefix_append _ _).trans opens
      · have some := List.length_pos_iff.mpr left.ne_nil
        rw [List.length_append, List.length_cons] at single
        omega

theorem IllFormed.unique {bad bad' rest rest' : Bytes} (left : IllFormed bad rest)
    (right : IllFormed bad' rest') (same : bad ++ rest = bad' ++ rest') :
  bad = bad' ∧ rest = rest'
  := by
  apply List.append_inj same
  exact Nat.le_antisymm (right.length_le left same.symm) (left.length_le right same)

/-- Octets are divided in one way. -/
theorem Divides.unique {ps qs : List Part} {bs : Bytes} (left : Divides ps bs)
    (right : Divides qs bs) :
  ps = qs
  := by
  induction left generalizing qs with
  | nil =>
      generalize same : ([] : Bytes) = bs at right
      cases right with
      | nil => rfl
      | character c => simp at same
      | broken illFormed => simp [illFormed.ne_nil] at same
  | @character ps rest c divides ih =>
      generalize same : String.utf8EncodeChar c ++ rest = bs at right
      cases right with
      | nil => simp at same
      | character d right =>
          obtain rfl := eq_of_append_eq same
          rw [ih (List.append_cancel_left same ▸ right)]
      | broken illFormed => exact absurd (same ▸ List.prefix_append _ _) (illFormed.noCharacter c)
  | @broken ps bad rest illFormed divides ih =>
      generalize same : bad ++ rest = bs at right
      cases right with
      | nil => simp [illFormed.ne_nil] at same
      | character d => exact absurd (same ▸ List.prefix_append _ _) (illFormed.noCharacter d)
      | broken illFormed' right =>
          obtain ⟨rfl, rfl⟩ := illFormed.unique illFormed' same
          rw [ih right]

/-- The parts make up the octets. -/
theorem Divides.flatMap_octets {ps : List Part} {bs : Bytes} (divides : Divides ps bs) :
  ps.flatMap Part.octets = bs
  := by
  induction divides with
  | nil => rfl
  | character c divides ih => rw [List.flatMap_cons, ih, Part.octets]
  | broken illFormed divides ih => rw [List.flatMap_cons, ih, Part.octets]

/-- The form of a text is divided into its characters. -/
theorem divides_encode (s : Text) :
  Divides (s.map Part.character) (encode s)
  := by
  induction s with
  | nil => exact .nil
  | cons c s ih => exact .character c ih

/-! ### What is read -/

/-- The reader meets the parts that the octets are divided into. -/
theorem marks_of_divides {ps : List Part} {bs : Bytes} (divides : Divides ps bs) :
  marks bs = ps.map Part.mark
  := by
  obtain ⟨qs, divides', met⟩ := exists_divides bs
  rw [met, divides'.unique divides]

/-- Characters are read as they are, and U+FFFD stands for each ill-formed part. -/
theorem decodeLossy_of_divides {ps : List Part} {bs : Bytes} (divides : Divides ps bs) :
  decodeLossy bs = ps.map Part.shown
  := by
  rw [decodeLossy, marks_of_divides divides, List.map_map]
  exact List.map_congr_left fun p _ => p.mark_getD

/-- A text written in UTF-8 is read back. -/
theorem decodeLossy_encode (s : Text) :
  decodeLossy (encode s) = s
  := by
  rw [decodeLossy_of_divides (divides_encode s), List.map_map]
  exact List.map_id s

end Utf8

end NotebookEngine
