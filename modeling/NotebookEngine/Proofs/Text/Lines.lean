import Mathlib.Data.List.DropRight
import NotebookEngine.Proofs.Text.Rows

/-!
# Lines of a text

The lines of a text are its rows without the carriage return at the end of each but the last, which is
dropped if it is empty (`lines_eq`). Joined again they are the text if and only if no carriage return in
it stands before a line feed (`join_lines_eq_iff`).
-/

namespace NotebookEngine

namespace Text

theorem endsWith_singleton {s : Text} {c : Char} :
  endsWith s [c] = true ↔ s.getLast? = some c
  := by
  rw [endsWith, List.reverse_singleton, List.getLast?_eq_head?_reverse]
  cases s.reverse with
  | nil => simp
  | cons d r =>
      simp only [List.isPrefixOf_cons_cons, List.isPrefixOf_nil_left, Bool.and_true, beq_iff_eq,
        List.head?_cons, Option.some.injEq]
      exact eq_comm

/-- Two lists of pieces are the same if they are joined to the same text, but for an empty piece that is
alone in its list. -/
theorem join_inj {sep : Char} {ps qs : List Text} (ps_whole : ∀ p ∈ ps, sep ∉ p)
    (qs_whole : ∀ q ∈ qs, sep ∉ q) (some : qs ≠ []) (filled : qs ≠ [[]])
    (same : join [sep] ps = join [sep] qs) :
  ps = qs
  := by
  have pieces_eq : pieces sep (join [sep] ps) = qs := by rw [same, pieces_join some qs_whole]
  by_cases none : ps = []
  · rw [none] at pieces_eq
    exact absurd pieces_eq.symm filled
  · rwa [pieces_join none ps_whole] at pieces_eq

/-- A text is known from its rows. -/
theorem rows_inj {s t : Text} (same : rows s = rows t) :
  s = t
  := by
  rw [← join_pieces '\n' s, ← rows, same, rows, join_pieces]

theorem trim_trim (s : Text) :
  trim (trim s) = trim s
  := by
  have kept : trimStart (trim s) = trim s := by
    rw [trimStart, List.dropWhile_eq_self_iff]
    intro some blank
    -- the first character was left by the trimming at the start
    have front : trim s <+: trimStart s := List.rdropWhile_prefix isBlank (trimStart s)
    obtain ⟨rest, same⟩ := front
    have start : trimStart (trimStart s) = trimStart s := List.dropWhile_idempotent isBlank s
    rw [trimStart, List.dropWhile_eq_self_iff] at start
    apply start (by rw [← same, List.length_append]; omega)
    simpa only [← same, List.getElem_append_left some] using blank
  rw [trim, kept]
  exact List.rdropWhile_idempotent isBlank (trimStart s)

/-! ### Rows and lines -/

/-- A row without the carriage return at its end, if there is one. -/
def unended (row : Text) : Text :=
  (stripSuffix? ['\r'] row).getD row

theorem unended_concat (row : Text) :
  unended (row ++ ['\r']) = row
  := by
  rw [unended, stripSuffix?_eq_some_iff.mpr rfl, Option.getD_some]

theorem unended_of_ne {row : Text} (other : row.getLast? ≠ some '\r') :
  unended row = row
  := by
  have none : stripSuffix? ['\r'] row = none := by
    rw [Option.eq_none_iff_forall_ne_some]
    intro kept stripped
    rw [stripSuffix?_eq_some_iff] at stripped
    rw [stripped, List.getLast?_concat] at other
    contradiction
  rw [unended, none, Option.getD_none]

/-- A row is as it is without a carriage return at its end, or ends with one. -/
theorem unended_cases (row : Text) :
  unended row = row ∧ row.getLast? ≠ some '\r' ∨ row = unended row ++ ['\r']
  := by
  by_cases ends : row.getLast? = some '\r'
  · obtain ⟨kept, rfl⟩ := List.getLast?_eq_some_iff.mp ends
    rw [unended_concat]
    exact .inr rfl
  · exact .inl ⟨unended_of_ne ends, ends⟩

theorem exists_rows_eq (s : Text) :
  ∃ front last, rows s = front ++ [last]
  := by
  rcases List.eq_nil_or_concat (rows s) with none | ⟨front, last, same⟩
  · exact absurd none (pieces_ne_nil '\n' s)
  · exact ⟨front, last, by rw [same, List.concat_eq_append]⟩

theorem lines_eq {s last : Text} {front : List Text} (apart : rows s = front ++ [last]) :
  lines s = front.map unended ++ if last = [] then [] else [last]
  := by
  rw [lines, apart]
  simp only [List.dropLast_concat, List.getLast?_concat]
  split
  case h_1 none => nomatch none
  case h_2 empty =>
    rw [if_pos (Option.some.inj empty), List.append_nil]
    rfl
  case h_3 some same =>
    obtain rfl := Option.some.inj same
    rw [if_neg some]
    rfl

theorem newline_notMem_of_mem_lines {s line : Text} (stands : line ∈ lines s) :
  '\n' ∉ line
  := by
  obtain ⟨front, last, apart⟩ := exists_rows_eq s
  have whole : ∀ row ∈ front ++ [last], '\n' ∉ row := by
    rw [← apart]
    exact fun row h => notMem_of_mem_pieces h
  rw [List.forall_mem_append, List.forall_mem_singleton] at whole
  rw [lines_eq apart, List.mem_append, List.mem_map] at stands
  rcases stands with ⟨row, stands, rfl⟩ | stands
  · have whole := whole.1 row stands
    rcases unended_cases row with ⟨same, -⟩ | same
    · rwa [same]
    · rw [same] at whole
      exact fun h => whole (List.mem_append_left _ h)
  · split at stands
    · contradiction
    · rw [List.mem_singleton.mp stands]
      exact whole.2

/-- What a test finds in the lines it finds in the rows, if it takes no notice of empty rows and of
carriage returns at the end. -/
theorem any_lines {test : Text → Bool} (empty : test [] = false)
    (ended : ∀ row, test (row ++ ['\r']) = test row) (s : Text) :
  (lines s).any test = (rows s).any test
  := by
  have unended_test : ∀ row, test (unended row) = test row := by
    intro row
    rcases unended_cases row with ⟨same, -⟩ | same
    · rw [same]
    · conv_rhs => rw [same, ended]
  obtain ⟨front, last, apart⟩ := exists_rows_eq s
  rw [lines_eq apart, apart, List.any_append, List.any_append, List.any_map]
  congr 1
  · congr 1
    exact funext unended_test
  · split
    case isTrue none => simp [none, empty]
    case isFalse => rfl

theorem all_isBlankText_lines (s : Text) :
  (lines s).all isBlankText = isBlankText s
  := by
  have blank : isBlank '\r' = true := by decide
  have found := @any_lines (fun row => !isBlankText row) rfl (by simp [isBlankText, blank]) s
  rw [← List.not_all_eq_any_not, ← List.not_all_eq_any_not, Bool.not_inj_iff] at found
  rw [found, ← isBlankText_join, rows, join_pieces]

/-! ### Lines joined -/

/-- A text with a carriage return before a line feed has a row that ends with one, before the last. -/
theorem exists_mem_of_infix {s last : Text} {front : List Text} (apart : rows s = front ++ [last])
    (returns : ['\r', '\n'] <:+: s) :
  ∃ row ∈ front, row.getLast? = some '\r'
  := by
  obtain ⟨before, after, rfl⟩ := returns
  have ends : ∀ t, ∃ front row, rows (t ++ ['\r']) = front ++ [row ++ ['\r']] := by
    intro t
    induction t with
    | nil => exact ⟨[], [], rfl⟩
    | cons c t ih =>
        obtain ⟨front, row, same⟩ := ih
        by_cases newline : c = '\n'
        · subst newline
          exact ⟨[] :: front, row, by rw [List.cons_append, rows, pieces_cons_self, ← rows, same]; rfl⟩
        · cases front with
          | nil => exact ⟨[], c :: row, pieces_cons_of_ne newline same⟩
          | cons first front => exact ⟨(c :: first) :: front, row, pieces_cons_of_ne newline same⟩
  obtain ⟨others, row, same⟩ := ends before
  obtain ⟨more, final, rest⟩ := exists_rows_eq after
  have joined : before ++ ['\r', '\n'] ++ after = (before ++ ['\r']) ++ '\n' :: after := by simp
  rw [joined, rows, pieces_append, ← rows, ← rows, same, rest, ← List.append_assoc] at apart
  obtain ⟨rfl, -⟩ := List.append_inj' apart rfl
  refine ⟨row ++ ['\r'], ?_, List.getLast?_concat⟩
  simp

theorem infix_of_mem {s last row : Text} {front : List Text} (apart : rows s = front ++ [last])
    (stands : row ∈ front) (ends : row.getLast? = some '\r') :
  ['\r', '\n'] <:+: s
  := by
  obtain ⟨kept, rfl⟩ := List.getLast?_eq_some_iff.mp ends
  obtain ⟨before, after, rfl⟩ := List.append_of_mem stands
  have text : s = join ['\n'] (before ++ (kept ++ ['\r']) :: (after ++ [last])) := by
    rw [← join_pieces '\n' s, ← rows, apart, List.append_assoc, List.cons_append]
  have rest : join ['\n'] ((kept ++ ['\r']) :: (after ++ [last]))
      = kept ++ ['\r', '\n'] ++ join ['\n'] (after ++ [last]) := by
    rw [join_cons (by simp)]
    simp
  cases before with
  | nil =>
      rw [text, List.nil_append, rest]
      exact ⟨kept, _, rfl⟩
  | cons first before =>
      rw [text, join_append _ (List.cons_ne_nil _ _) (List.cons_ne_nil _ _), rest]
      exact ⟨join ['\n'] (first :: before) ++ ['\n'] ++ kept, join ['\n'] (after ++ [last]), by simp⟩

/-- The lines of a text that does not end with a line feed, joined again, are the text if and only if no
carriage return in it stands before a line feed. -/
theorem join_lines_eq_iff {s : Text} (ended : (rows s).getLast? ≠ some []) :
  join ['\n'] (lines s) = s ↔ ¬['\r', '\n'] <:+: s
  := by
  obtain ⟨front, last, apart⟩ := exists_rows_eq s
  have filled : last ≠ [] := by
    rintro rfl
    rw [apart, List.getLast?_concat] at ended
    contradiction
  have lines_same : lines s = front.map unended ++ [last] := by rw [lines_eq apart, if_neg filled]
  constructor
  case mp =>
    intro same returns
    obtain ⟨row, stands, ends⟩ := exists_mem_of_infix apart returns
    have rows_whole : ∀ row ∈ rows s, '\n' ∉ row := fun row h => notMem_of_mem_pieces h
    have same : lines s = rows s := by
      apply join_inj (fun line h => newline_notMem_of_mem_lines h) rows_whole (pieces_ne_nil '\n' s)
      · intro single
        rw [single] at ended
        contradiction
      · rw [same, rows, join_pieces]
    rw [lines_same, apart] at same
    obtain ⟨same, -⟩ := List.append_inj' same rfl
    -- the row that ends with a carriage return has lost it
    have kept : unended row = row := by
      have all : ∀ row ∈ front, unended row = id row := by
        rw [← List.map_inj_left, List.map_id, same]
      exact all row stands
    rcases unended_cases row with ⟨-, other⟩ | longer
    · contradiction
    · have length := congrArg List.length longer
      rw [kept, List.length_append, List.length_singleton] at length
      omega
  case mpr =>
    intro noReturns
    have kept : front.map unended = front := by
      conv_rhs => rw [← List.map_id front]
      apply List.map_congr_left
      intro row stands
      exact unended_of_ne fun ends => noReturns (infix_of_mem apart stands ends)
    rw [lines_same, kept, ← apart, rows, join_pieces]

theorem unended_sublist (row : Text) :
  (unended row).Sublist row
  := by
  rcases unended_cases row with ⟨same, -⟩ | same
  · rw [same]
  · conv_rhs => rw [same]
    exact List.sublist_append_left _ _

/-- The lines of such a text, joined again, are the text but for some characters. -/
theorem join_lines_sublist {s : Text} (ended : (rows s).getLast? ≠ some []) :
  (join ['\n'] (lines s)).Sublist s
  := by
  obtain ⟨front, last, apart⟩ := exists_rows_eq s
  have filled : last ≠ [] := by
    rintro rfl
    rw [apart, List.getLast?_concat] at ended
    contradiction
  have sublist : (join ['\n'] (front.map unended ++ [last])).Sublist (join ['\n'] (front ++ [last])) := by
    clear apart
    induction front with
    | nil => exact List.Sublist.refl _
    | cons row front ih =>
        rw [List.map_cons, List.cons_append, List.cons_append, join_cons (by simp), join_cons (by simp)]
        exact ((unended_sublist row).append_right ['\n']).append ih
  rw [lines_eq apart, if_neg filled]
  rwa [← apart, rows, join_pieces] at sublist

end Text

end NotebookEngine
