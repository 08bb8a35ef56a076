import NotebookEngine.Proofs.Text.Occurrences
import NotebookEngine.Proofs.Text.Rows

/-!
# Replacement in a text

A text is cut at the disjoint occurrences of a text that are found from the left, and they are replaced
(`exists_replaceAll_eq_join`). If what replaces them begins and ends with characters that `p` does not hold, no `p`
is left, and none comes about at the ends of a replacement (`not_isInfix_join`).
-/

namespace NotebookEngine

namespace Text

section

variable {p : Text} (q : Text)

theorem replaceFrom_length (s rest : Text) :
  replaceFrom p q s.length (s ++ rest) = replaceFrom p q 0 rest
  := by
  induction s with
  | nil => rfl
  | cons c s ih =>
      rw [List.cons_append, replaceFrom, List.length_cons, if_pos (Nat.succ_pos _)]
      exact ih

/-- An occurrence at the front is replaced. -/
theorem replaceFrom_append (some : p ≠ []) (rest : Text) :
  replaceFrom p q 0 (p ++ rest) = q ++ replaceFrom p q 0 rest
  := by
  obtain ⟨c, p, rfl⟩ := List.exists_cons_of_ne_nil some
  have begins : (c :: p).isPrefixOf (c :: (p ++ rest)) = true :=
    List.isPrefixOf_iff_prefix.mpr (List.prefix_append _ _)
  rw [List.cons_append, replaceFrom, if_neg (Nat.lt_irrefl 0), if_pos begins, List.length_cons,
    Nat.add_sub_cancel, replaceFrom_length]

/-- A character stays where no occurrence begins. -/
theorem replaceFrom_cons {c : Char} {s : Text} (absent : ¬p <+: c :: s) :
  replaceFrom p q 0 (c :: s) = c :: replaceFrom p q 0 s
  := by
  rw [← List.isPrefixOf_iff_prefix] at absent
  rw [replaceFrom, if_neg (Nat.lt_irrefl 0), if_neg absent]

end

/-- The text is cut at disjoint occurrences of `p` into parts that hold none. -/
structure CutAt (p s : Text) (parts : List Text) : Prop where
  some : parts ≠ []
  whole : s = join p parts
  free : ∀ part ∈ parts, ¬p <:+: part

section

variable {p s : Text} {parts : List Text}

theorem CutAt.append (cut : CutAt p s parts) (some : p ≠ []) :
  CutAt p (p ++ s) ([] :: parts)
  where
  some := List.cons_ne_nil _ _
  whole := by rw [join_cons cut.some, ← cut.whole, List.nil_append]
  free := by
    rw [List.forall_mem_cons, List.infix_nil]
    exact ⟨some, cut.free⟩

theorem join_cons_cons (sep : Text) (c : Char) (first : Text) (rest : List Text) :
  join sep ((c :: first) :: rest) = c :: join sep (first :: rest)
  := by
  cases rest <;> rfl

theorem prefix_join (sep first : Text) (rest : List Text) :
  first <+: join sep (first :: rest)
  := by
  cases rest with
  | nil => exact List.prefix_rfl
  | cons second rest => exact ⟨sep ++ join sep (second :: rest), (List.append_assoc _ _ _).symm⟩

theorem CutAt.cons {c : Char} {first : Text} (cut : CutAt p s (first :: parts)) (absent : ¬p <+: c :: s) :
  CutAt p (c :: s) ((c :: first) :: parts)
  where
  some := List.cons_ne_nil _ _
  whole := by rw [join_cons_cons, ← cut.whole]
  free := by
    have free := cut.free
    rw [List.forall_mem_cons] at free ⊢
    refine ⟨?_, free.2⟩
    rw [List.infix_cons_iff, not_or]
    refine ⟨fun begins => absent (begins.trans ?_), free.1⟩
    rw [cut.whole, ← join_cons_cons]
    exact prefix_join p (c :: first) parts

/-- The parts between the occurrences stay as they are, and each occurrence is replaced. -/
theorem exists_replaceFrom_eq_join (some : p ≠ []) (q s : Text) :
  ∃ parts, CutAt p s parts ∧ replaceFrom p q 0 s = join q parts
  := by
  induction h : s.length using Nat.strongRecOn generalizing s with
  | ind n ih =>
      subst h
      by_cases begins : p <+: s
      · obtain ⟨rest, rfl⟩ := begins
        have shorter : rest.length < (p ++ rest).length := by
          rw [List.length_append]
          exact Nat.lt_add_of_pos_left (List.length_pos_iff.mpr some)
        obtain ⟨parts, cut, replaced⟩ := ih rest.length shorter rest rfl
        refine ⟨[] :: parts, cut.append some, ?_⟩
        rw [replaceFrom_append q some, replaced, join_cons cut.some, List.nil_append]
      · cases s with
        | nil =>
            refine ⟨[[]], ⟨List.cons_ne_nil _ _, rfl, ?_⟩, rfl⟩
            rw [List.forall_mem_singleton, List.infix_nil]
            exact some
        | cons c s =>
            obtain ⟨parts, cut, replaced⟩ := ih s.length (Nat.lt_succ_self _) s rfl
            obtain ⟨first, parts, rfl⟩ := List.exists_cons_of_ne_nil cut.some
            refine ⟨(c :: first) :: parts, cut.cons begins, ?_⟩
            rw [replaceFrom_cons q begins, replaced, join_cons_cons]

theorem exists_replaceAll_eq_join (some : p ≠ []) (q s : Text) :
  ∃ parts, CutAt p s parts ∧ replaceAll p q s = join q parts
  := by
  have filled : ¬p.isEmpty = true := fun none => some (List.isEmpty_iff.mp none)
  rw [replaceAll, if_neg filled]
  exact exists_replaceFrom_eq_join some q s

/-- Between two characters that `p` does not hold, no occurrence of `p` comes about at the ends of what is
put in. -/
theorem not_isInfix_join {opening closing : Char} {inner : Text} (some : p ≠ [])
    (opening_foreign : opening ∉ p) (closing_foreign : closing ∉ p) (inner_free : ¬p <:+: inner)
    (free : ∀ part ∈ parts, ¬p <:+: part) :
  ¬p <:+: join (opening :: (inner ++ [closing])) parts
  := by
  induction parts with
  | nil =>
      rw [join, List.infix_nil]
      exact some
  | cons first parts ih =>
      rw [List.forall_mem_cons] at free
      cases parts with
      | nil => exact free.1
      | cons second parts =>
          rw [join, List.append_assoc, List.cons_append, List.append_assoc, List.singleton_append,
            isInfix_append_cons_iff opening_foreign, isInfix_append_cons_iff closing_foreign, not_or, not_or]
          exact ⟨free.1, inner_free, ih free.2⟩

end

end Text

end NotebookEngine
