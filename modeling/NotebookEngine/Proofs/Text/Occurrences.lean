import Mathlib.Data.List.Infix
import NotebookEngine.Proofs.Text.Words

/-!
# Occurrences in a text

No occurrence of a text goes across a character that the text does not hold (`isInfix_append_cons_iff`), and
trimming takes no occurrence of a text without blanks (`isInfix_trim_iff`). What follows the last occurrence
is found (`afterLast?_eq_some`), and found if there is an occurrence (`afterLast?_eq_none_iff`).
-/

namespace NotebookEngine

namespace Text

section

variable {p : Text}

/-! ### Foreign characters -/

theorem isPrefix_of_append_cons {s t : Text} {c : Char} (foreign : c ∉ p) (begins : p <+: s ++ c :: t) :
  p <+: s
  := by
  apply List.prefix_of_prefix_length_le begins (List.prefix_append s _)
  by_contra longer
  have upTo : s ++ [c] <+: s ++ c :: t := by simp
  have held : s ++ [c] <+: p := by
    apply List.prefix_of_prefix_length_le upTo begins
    rw [List.length_append, List.length_singleton]
    omega
  exact foreign (held.subset (by simp))

/-- No occurrence goes across a character that `p` does not hold. -/
theorem isInfix_append_cons_iff {s t : Text} {c : Char} (foreign : c ∉ p) :
  p <:+: s ++ c :: t ↔ p <:+: s ∨ p <:+: t
  := by
  constructor
  · intro occurs
    induction s with
    | nil =>
        rcases List.infix_cons_iff.mp occurs with begins | behind
        · exact .inl (isPrefix_of_append_cons (s := []) foreign begins).isInfix
        · exact .inr behind
    | cons d s ih =>
        rw [List.cons_append] at occurs
        rcases List.infix_cons_iff.mp occurs with begins | behind
        · exact .inl (isPrefix_of_append_cons (s := d :: s) foreign begins).isInfix
        · exact (ih behind).imp_left fun inFront => inFront.trans (List.suffix_cons d s).isInfix
  · rintro (inFront | behind)
    · exact inFront.trans (List.prefix_append s _).isInfix
    · exact behind.trans ((List.suffix_cons c t).trans (List.suffix_append s _)).isInfix

theorem isInfix_dropWhile_iff {s : Text} {drops : Char → Bool} (some : p ≠ [])
    (kept : ∀ c ∈ p, drops c = false) :
  p <:+: s.dropWhile drops ↔ p <:+: s
  := by
  induction s with
  | nil => rfl
  | cons c s ih =>
      by_cases dropped : drops c = true
      · have foreign : c ∉ p := fun stands => by rw [kept c stands] at dropped; contradiction
        have cut : p <:+: [] ++ c :: s ↔ p <:+: [] ∨ p <:+: s := isInfix_append_cons_iff foreign
        rw [List.nil_append, List.infix_nil, or_iff_right some] at cut
        rw [List.dropWhile_cons_of_pos dropped, ih, cut]
      · rw [List.dropWhile_cons_of_neg dropped]

/-- Trimming takes no occurrence of a text without blanks. -/
theorem isInfix_trim_iff {s : Text} (some : p ≠ []) (solid : p.any isBlank = false) :
  p <:+: trim s ↔ p <:+: s
  := by
  have kept : ∀ c ∈ p, isBlank c = false := by simpa using solid
  have kept_reverse : ∀ c ∈ p.reverse, isBlank c = false :=
    fun c stands => kept c (List.mem_reverse.mp stands)
  rw [trim, trimEnd, ← List.reverse_infix, List.reverse_reverse,
    isInfix_dropWhile_iff (List.reverse_ne_nil_iff.mpr some) kept_reverse, List.reverse_infix, trimStart,
    isInfix_dropWhile_iff some kept]

theorem mem_trim_iff {c : Char} {s : Text} (solid : isBlank c = false) :
  c ∈ trim s ↔ c ∈ s
  := by
  rw [← List.singleton_infix_iff, ← List.singleton_infix_iff]
  apply isInfix_trim_iff (List.cons_ne_nil c [])
  rw [List.any_cons, solid]
  rfl

/-! ### The last occurrence -/

theorem afterLast?_eq_some {s r : Text} (found : afterLast? p s = some r) :
  ∃ before, s = before ++ (p ++ r)
  := by
  induction s with
  | nil =>
      rw [afterLast?] at found
      split at found
      case isTrue none =>
        obtain rfl := Option.some.inj found
        exact ⟨[], by rw [List.isEmpty_iff.mp none]; rfl⟩
      case isFalse => contradiction
  | cons c s ih =>
      rw [afterLast?_cons, Option.or_eq_some_iff, stripPrefix?_eq_some_iff] at found
      rcases found with later | ⟨-, begins⟩
      · obtain ⟨before, apart⟩ := ih later
        exact ⟨c :: before, by rw [apart]; rfl⟩
      · exact ⟨[], begins⟩

theorem afterLast?_eq_none_iff {s : Text} :
  afterLast? p s = none ↔ ¬p <:+: s
  := by
  induction s with
  | nil => cases p <;> simp [afterLast?]
  | cons c s ih =>
      have begins : stripPrefix? p (c :: s) = none ↔ ¬p <+: c :: s := by
        rw [Option.eq_none_iff_forall_ne_some]
        simp only [ne_eq, stripPrefix?_eq_some_iff, List.prefix_iff_exists_eq_append, not_exists]
      rw [List.infix_cons_iff, not_or, ← ih, ← begins, afterLast?_cons, Option.or_eq_none_iff,
        and_comm]

/-- The last occurrence is the last one, whatever stands in front. -/
theorem afterLast?_append {s r : Text} (found : afterLast? p s = some r) (before : Text) :
  afterLast? p (before ++ s) = some r
  := by
  induction before with
  | nil => exact found
  | cons c before ih => rw [List.cons_append, afterLast?_cons, ih, Option.some_or]

/-- An occurrence is the last one if none begins behind its first character. -/
theorem afterLast?_of_last {c : Char} {r : Text} (last : ¬(c :: p) <:+: p ++ r) (before : Text) :
  afterLast? (c :: p) (before ++ (c :: p ++ r)) = some r
  := by
  apply afterLast?_append
  rw [List.cons_append, afterLast?_cons, afterLast?_eq_none_iff.mpr last, Option.none_or]
  exact stripPrefix?_eq_some_iff.mpr rfl

end

end Text

end NotebookEngine
