import NotebookEngine.Proofs.Text.Lines

/-!
# Blanks and words in a text

What a text begins with, ends with and holds is asked in terms of prefixes, suffixes and infixes
(`startsWith_iff`, `endsWith_iff`, `occurs_iff`). Trimming takes the blanks at the ends of a text and
leaves a part of it as it is (`trimStart_blank_append`, `trimEnd_append_blank`). But for carriage returns at
the end of each, rows that are joined are read back (`map_bare_lines_join`). The word at the front of a text
is known from the text (`word_inj`).
-/

namespace NotebookEngine

namespace Text

/-! ### Searches -/

theorem startsWith_iff {s p : Text} :
  startsWith s p = true ↔ p <+: s
  := List.isPrefixOf_iff_prefix

theorem endsWith_iff {s p : Text} :
  endsWith s p = true ↔ p <:+ s
  := by
  rw [endsWith, List.isPrefixOf_iff_prefix, List.reverse_prefix]

theorem occurs_iff {s p : Text} :
  occurs p s = true ↔ p <:+: s
  := by
  induction s with
  | nil => rw [occurs, List.isEmpty_iff, List.infix_nil]
  | cons c s ih => rw [occurs, Bool.or_eq_true, ih, List.isPrefixOf_iff_prefix, List.infix_cons_iff]

theorem isInfix_of_mem_pieces {sep : Char} {s p : Text} (piece : p ∈ pieces sep s) :
  p <:+: s
  := by
  obtain ⟨before, after, apart⟩ := List.append_of_mem piece
  rw [← join_pieces sep s, apart]
  have behind : ∃ rest, join [sep] (p :: after) = p ++ rest := by
    cases after with
    | nil => exact ⟨[], (List.append_nil p).symm⟩
    | cons q after => exact ⟨[sep] ++ join [sep] (q :: after), by rw [join, List.append_assoc]⟩
  obtain ⟨rest, behind⟩ := behind
  cases before with
  | nil => exact ⟨[], rest, by rw [List.nil_append, List.nil_append, behind]⟩
  | cons q before =>
      rw [join_append _ (List.cons_ne_nil _ _) (List.cons_ne_nil _ _), behind]
      exact ⟨join [sep] (q :: before) ++ [sep], rest, List.append_assoc _ _ _⟩

theorem isInfix_trim (s : Text) :
  trim s <:+: s
  := (List.rdropWhile_prefix isBlank _).isInfix.trans (List.dropWhile_suffix isBlank).isInfix

/-! ### Blanks -/

theorem isBlankText_append (s t : Text) :
  isBlankText (s ++ t) = (isBlankText s && isBlankText t)
  := List.all_append

theorem isBlankText_indent (s : Text) :
  isBlankText (indent s) = true
  := by
  rw [isBlankText, List.all_eq_true]
  exact fun c stands => List.mem_takeWhile_imp stands

theorem trimStart_blank_append {s t : Text} (blank : isBlankText s = true)
    (begins : startsBlank t = false) :
  trimStart (s ++ t) = t
  := by
  induction s with
  | nil =>
      cases t with
      | nil => rfl
      | cons c t => exact List.dropWhile_cons_of_neg (by rw [← startsBlank.eq_2 c t, begins]; nofun)
  | cons c s ih =>
      rw [isBlankText, List.all_cons, Bool.and_eq_true] at blank
      rw [List.cons_append, trimStart, List.dropWhile_cons_of_pos blank.1]
      exact ih blank.2

theorem trimEnd_append_blank {s t : Text} (blank : isBlankText t = true) :
  trimEnd (s ++ t) = trimEnd s
  := by
  induction t using List.reverseRecOn with
  | nil => rw [List.append_nil]
  | append_singleton t c ih =>
      rw [isBlankText_append, Bool.and_eq_true] at blank
      have last : isBlank c = true := by simpa [isBlankText] using blank.2
      rw [← List.append_assoc]
      exact (List.rdropWhile_concat_pos isBlank _ c last).trans (ih blank.1)

theorem trimEnd_append {s t : Text} (some : isBlankText t = false) :
  trimEnd (s ++ t) = s ++ trimEnd t
  := by
  induction t using List.reverseRecOn with
  | nil => nomatch some
  | append_singleton t c ih =>
      rw [← List.append_assoc]
      by_cases last : isBlank c = true
      · have front : isBlankText t = false := by simpa [isBlankText, last] using some
        have shorter (r : Text) : trimEnd (r ++ [c]) = trimEnd r :=
          List.rdropWhile_concat_pos isBlank r c last
        rw [shorter, shorter, ih front]
      · have kept (r : Text) : trimEnd (r ++ [c]) = r ++ [c] :=
          List.rdropWhile_concat_neg isBlank r c last
        rw [kept, kept, List.append_assoc]

/-- A text that does not end with a blank is left whole by what is trimmed behind it. -/
theorem prefix_trimEnd_append {s : Text} (solid : trimEnd s = s) (t : Text) :
  s <+: trimEnd (s ++ t)
  := by
  cases blank : isBlankText t with
  | true =>
      exact ⟨[], by rw [trimEnd_append_blank blank, solid, List.append_nil]⟩
  | false =>
      rw [trimEnd_append blank]
      exact List.prefix_append s _

/-- The text ends with a character that is no blank. -/
def Solid (s : Text) : Prop :=
  ∃ c ∈ s.getLast?, isBlank c = false

theorem Solid.trimEnd {s : Text} (solid : Solid s) :
  trimEnd s = s
  := by
  obtain ⟨c, last, noBlank⟩ := solid
  obtain ⟨front, rfl⟩ := List.getLast?_eq_some_iff.mp last
  exact List.rdropWhile_concat_neg isBlank front c (by rw [noBlank]; exact Bool.false_ne_true)

theorem Solid.append {t : Text} (solid : Solid t) (s : Text) :
  Solid (s ++ t)
  := by
  obtain ⟨c, last, noBlank⟩ := solid
  refine ⟨c, ?_, noBlank⟩
  rw [Option.mem_def] at last ⊢
  rw [List.getLast?_append, last, Option.some_or]

theorem trim_blank_append {s : Text} (blank : isBlankText s = true) (t : Text) :
  trim (s ++ t) = trim t
  := by
  induction s with
  | nil => rfl
  | cons c s ih =>
      rw [isBlankText, List.all_cons, Bool.and_eq_true] at blank
      rw [List.cons_append, trim, trimStart, List.dropWhile_cons_of_pos blank.1]
      exact ih blank.2

/-- What is trimmed begins with the first character of a text that is no blank. -/
theorem exists_trim_append {s : Text} (some : isBlankText s = false) (t : Text) :
  ∃ c ∈ s, ∃ rest, trim (s ++ t) = c :: rest
  := by
  induction s with
  | nil => exact absurd some (by decide)
  | cons c s ih =>
      cases blank : isBlank c with
      | true =>
          have single : isBlankText [c] = true := by rw [isBlankText, List.all_cons, blank]; rfl
          rw [isBlankText, List.all_cons, blank, Bool.true_and] at some
          obtain ⟨d, stands, rest, same⟩ := ih some
          refine ⟨d, List.mem_cons_of_mem c stands, rest, ?_⟩
          rw [← List.singleton_append, List.append_assoc, trim_blank_append single, same]
      | false =>
          have solid : Solid [c] := ⟨c, rfl, blank⟩
          obtain ⟨rest, same⟩ := prefix_trimEnd_append solid.trimEnd (s ++ t)
          refine ⟨c, List.mem_cons_self, rest, ?_⟩
          have stays : ¬isBlank c = true := by rw [blank]; exact Bool.false_ne_true
          rw [trim, trimStart, List.cons_append, List.dropWhile_cons_of_neg stays]
          exact same.symm

theorem trim_append_blank (s : Text) {t : Text} (blank : isBlankText t = true) :
  trim (s ++ t) = trim s
  := by
  cases some : isBlankText s with
  | true =>
      have all : isBlankText (s ++ t) = true := by rw [isBlankText_append, some, blank]; rfl
      rw [← isEmpty_trim, List.isEmpty_iff] at some all
      rw [some, all]
  | false =>
      have filled : (trimStart s).isEmpty = false := by
        rw [← isBlankText_trimStart] at some
        rw [List.isEmpty_eq_false_iff]
        intro none
        rw [none] at some
        contradiction
      have front : trimStart (s ++ t) = trimStart s ++ t := by
        rw [trimStart, List.dropWhile_append, ← trimStart, filled]
        rfl
      rw [trim, front, trimEnd_append_blank blank, ← trim]

theorem trim_trimStart (s : Text) :
  trim (trimStart s) = trim s
  := by
  conv_rhs => rw [← trimStart_indent s, trim_blank_append (isBlankText_indent s)]

theorem trim_trimEnd (s : Text) :
  trim (trimEnd s) = trim s
  := by
  have apart : trimEnd s ++ s.rtakeWhile isBlank = s := List.rdropWhile_append_rtakeWhile
  have blank : isBlankText (s.rtakeWhile isBlank) = true :=
    List.all_eq_true.mpr fun _ stands => List.mem_rtakeWhile_imp stands
  conv_rhs => rw [← apart, trim_append_blank _ blank]

/-- A row of trimmed rows is one of the rows, but for blanks at its ends. -/
theorem exists_trim_eq_of_mem_trimEnds {ls : List Text} {row : Text} (stands : row ∈ trimEnds ls) :
  ∃ line ∈ ls, trim row = trim line
  := by
  rcases List.eq_nil_or_concat' ls with rfl | ⟨front, last, rfl⟩
  · contradiction
  cases front with
  | nil =>
      obtain rfl : row = trimEnd (trimStart last) := List.mem_singleton.mp stands
      exact ⟨last, List.mem_singleton_self last, by rw [trim_trimEnd, trim_trimStart]⟩
  | cons first front =>
      rw [trimEnds, List.cons_append, List.modifyHead_cons, ← List.cons_append, List.modifyLast_concat,
        List.mem_append, List.mem_cons, List.mem_singleton] at stands
      rcases stands with (rfl | inner) | rfl
      · exact ⟨first, by simp, trim_trimStart first⟩
      · exact ⟨row, by simp [inner], rfl⟩
      · exact ⟨last, by simp, trim_trimEnd last⟩

/-! ### Carriage returns at the end -/

/-- A row without the carriage returns at its end. -/
def bare (row : Text) : Text :=
  row.rdropWhile (· == '\r')

theorem exists_bare_append (row : Text) :
  ∃ returns, row = bare row ++ returns ∧ ∀ c ∈ returns, c = '\r'
  := by
  refine ⟨_, List.rdropWhile_append_rtakeWhile.symm, fun c stands => ?_⟩
  have same := List.mem_rtakeWhile_imp stands
  exact beq_iff_eq.mp same

theorem isBlankText_of_returns {s : Text} (all : ∀ c ∈ s, c = '\r') :
  isBlankText s = true
  := by
  rw [isBlankText, List.all_eq_true]
  intro c stands
  rw [all c stands]
  decide

theorem bare_unended (row : Text) :
  bare (unended row) = bare row
  := by
  rcases unended_cases row with ⟨same, -⟩ | same
  · rw [same]
  · conv_rhs => rw [same]
    exact (List.rdropWhile_concat_pos _ _ _ (by decide)).symm

theorem trim_bare (row : Text) :
  trim (bare row) = trim row
  := by
  obtain ⟨returns, apart, all⟩ := exists_bare_append row
  conv_rhs => rw [apart, trim_append_blank _ (isBlankText_of_returns all)]

/-- Rows that are joined are read back but for carriage returns at the end of each, if the last of them
is not empty. -/
theorem map_bare_lines_join {ls : List Text} (whole : ∀ line ∈ ls, '\n' ∉ line)
    (last : ls.getLast? ≠ some []) :
  (lines (join ['\n'] ls)).map bare = ls.map bare
  := by
  rcases List.eq_nil_or_concat' ls with rfl | ⟨front, final, rfl⟩
  · rfl
  have apart : rows (join ['\n'] (front ++ [final])) = front ++ [final] :=
    pieces_join (by simp) whole
  have filled : final ≠ [] := by simpa using last
  rw [lines_eq apart, if_neg filled, List.map_append, List.map_append, List.map_map]
  congr 1
  apply List.map_congr_left
  intro row _
  exact bare_unended row

/-! ### Words -/

/-- A small letter is no blank. -/
theorem isBlank_of_isLower {c : Char} (lower : c.isLower = true) :
  isBlank c = false
  := by
  have letters : (decide (97 ≤ c.toNat) && decide (c.toNat ≤ 122)) = true := lower
  rw [Bool.and_eq_true, decide_eq_true_eq, decide_eq_true_eq] at letters
  simp only [isBlank, Bool.or_eq_false_iff, Bool.and_eq_false_iff, decide_eq_false_iff_not]
  omega

/-- A word: small letters only. -/
def IsWord (w : Text) : Prop :=
  ∀ c ∈ w, c.isLower = true

instance (w : Text) : Decidable (IsWord w) :=
  List.decidableBAll _ w

/-- No word goes on here. -/
def Breaks (s : Text) : Prop :=
  ∀ c ∈ s.head?, c.isLower = false

theorem breaks_of_startsBlank {s : Text} (blank : startsBlank s = true) :
  Breaks s
  := by
  intro c first
  obtain ⟨rest, rfl⟩ := List.head?_eq_some_iff.mp first
  rw [← Bool.not_eq_true]
  intro lower
  rw [startsBlank, isBlank_of_isLower lower] at blank
  contradiction

/-- The word at the front of a text is known from the text. -/
theorem word_inj {w v r s : Text} (w_word : IsWord w) (v_word : IsWord v) (r_breaks : Breaks r)
    (s_breaks : Breaks s) (same : w ++ r = v ++ s) :
  w = v ∧ r = s
  := by
  induction w generalizing v with
  | nil =>
      cases v with
      | nil => exact ⟨rfl, same⟩
      | cons c v =>
          have breaks := r_breaks c (by rw [← List.nil_append r, same]; rfl)
          rw [v_word c List.mem_cons_self] at breaks
          contradiction
  | cons c w ih =>
      cases v with
      | nil =>
          have breaks := s_breaks c (by rw [← List.nil_append s, ← same]; rfl)
          rw [w_word c List.mem_cons_self] at breaks
          contradiction
      | cons d v =>
          obtain ⟨rfl, tails⟩ := List.cons.inj same
          obtain ⟨rfl, rest⟩ := ih (List.forall_mem_of_forall_mem_cons w_word)
            (List.forall_mem_of_forall_mem_cons v_word) tails
          exact ⟨rfl, rest⟩

end Text

end NotebookEngine
