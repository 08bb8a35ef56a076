import Mathlib.Data.List.Basic
import Mathlib.Data.List.ModifyLast
import Mathlib.Data.List.TakeWhile
import NotebookEngine.Text.Blank

/-!
# Rows of a text

The rows of a text are what stands between its line feeds. Rows that are put together, each ended
(`ended`) or with a line feed between each two (`join`), come apart into the same rows
(`lines_ended`, `lines_join`). Trimming a text drops the blank rows at its ends and trims the first
and the last of the others; no other row is touched (`trimmed_rows`).
-/

namespace NotebookEngine

namespace Text

/-! ### Pieces put together -/

/-- The pieces of a text that begins with no separator. -/
theorem pieces_cons_of_ne {sep c : Char} (other : c ≠ sep) {s p : Text} {ps : List Text}
    (h : pieces sep s = p :: ps) :
  pieces sep (c :: s) = (c :: p) :: ps
  := by
  rw [pieces_cons, h, addToPieces.eq_def, if_neg other]

theorem pieces_cons_self (sep : Char) (s : Text) :
  pieces sep (sep :: s) = [] :: pieces sep s
  := by
  rw [pieces_cons, addToPieces.eq_def, if_pos rfl]

theorem notMem_of_mem_pieces {sep : Char} {s p : Text} (piece : p ∈ pieces sep s) :
  sep ∉ p
  := by
  induction s generalizing p with
  | nil =>
      rw [pieces_nil, List.mem_singleton] at piece
      rw [piece]
      apply List.not_mem_nil
  | cons c s ih =>
      by_cases other : c = sep
      · subst other
        rw [pieces_cons_self, List.mem_cons] at piece
        rcases piece with rfl | piece
        · apply List.not_mem_nil
        · exact ih piece
      · obtain ⟨q, qs, h⟩ := List.exists_cons_of_ne_nil (pieces_ne_nil sep s)
        rw [h] at ih
        rw [pieces_cons_of_ne other h, List.mem_cons] at piece
        rcases piece with rfl | piece
        · rw [List.mem_cons, not_or]
          exact ⟨Ne.symm other, ih List.mem_cons_self⟩
        · exact ih (List.mem_cons_of_mem q piece)

theorem mem_join {sep : Char} {c : Char} {p : Text} {ps : List Text} (piece : p ∈ ps)
    (h : c ∈ p) :
  c ∈ join [sep] ps
  := by
  induction ps with
  | nil => contradiction
  | cons q ps ih =>
      cases ps with
      | nil =>
          rw [List.mem_singleton] at piece
          rwa [join, ← piece]
      | cons r rs =>
          rw [join, List.mem_append, List.mem_append]
          rcases List.mem_cons.mp piece with rfl | piece
          · exact .inl (.inl h)
          · exact .inr (ih piece)

theorem mem_of_mem_pieces {sep c : Char} {s p : Text} (piece : p ∈ pieces sep s) (h : c ∈ p) :
  c ∈ s
  := by
  rw [← join_pieces sep s]
  apply mem_join piece h

/-- Pieces without separators come apart again. -/
theorem pieces_join {sep : Char} {ps : List Text} (some : ps ≠ []) (whole : ∀ p ∈ ps, sep ∉ p) :
  pieces sep (join [sep] ps) = ps
  := by
  induction ps with
  | nil => contradiction
  | cons p ps ih =>
      rw [List.forall_mem_cons] at whole
      cases ps with
      | nil => rw [join, pieces_of_notMem whole.1]
      | cons q qs =>
          rw [join, List.append_assoc, List.singleton_append, pieces_append,
            pieces_of_notMem whole.1, ih (List.cons_ne_nil q qs) whole.2, List.singleton_append]

theorem join_append (sep : Text) {ps qs : List Text} (some : ps ≠ []) (others : qs ≠ []) :
  join sep (ps ++ qs) = join sep ps ++ sep ++ join sep qs
  := by
  induction ps with
  | nil => contradiction
  | cons p ps ih =>
      cases ps with
      | nil => rw [List.singleton_append, join_cons others, join]
      | cons r rs =>
          rw [List.cons_append, join_cons (by simp), ih (List.cons_ne_nil r rs),
            join_cons (List.cons_ne_nil r rs)]
          simp only [List.append_assoc]

theorem pieces_append_front {sep : Char} {s t p : Text} {ps : List Text} (whole : sep ∉ s)
    (apart : pieces sep t = p :: ps) :
  pieces sep (s ++ t) = (s ++ p) :: ps
  := by
  induction s with
  | nil => exact apart
  | cons c s ih =>
      rw [List.mem_cons, not_or] at whole
      exact pieces_cons_of_ne (Ne.symm whole.1) (ih whole.2)

theorem pieces_append_back {sep : Char} {s t last : Text} {front : List Text} (whole : sep ∉ t)
    (apart : pieces sep s = front ++ [last]) :
  pieces sep (s ++ t) = front ++ [last ++ t]
  := by
  have text : s ++ t = join [sep] (front ++ [last ++ t]) := by
    rw [← join_pieces sep s, apart]
    cases front with
    | nil => rfl
    | cons p ps =>
        rw [join_append _ (List.cons_ne_nil _ _) (List.cons_ne_nil _ _),
          join_append _ (List.cons_ne_nil _ _) (List.cons_ne_nil _ _), List.append_assoc]
        rfl
  have whole_pieces : ∀ p ∈ front ++ [last], sep ∉ p := by
    rw [← apart]
    exact fun p piece => notMem_of_mem_pieces piece
  rw [List.forall_mem_append, List.forall_mem_singleton] at whole_pieces
  rw [text, pieces_join (by simp)]
  rw [List.forall_mem_append, List.forall_mem_singleton, List.mem_append, not_or]
  exact ⟨whole_pieces.1, whole_pieces.2, whole⟩

theorem rows_join {ps : List Text} (some : ps ≠ []) :
  rows (join ['\n'] ps) = ps.flatMap rows
  := by
  induction ps with
  | nil => contradiction
  | cons p ps ih =>
      cases ps with
      | nil => simp [join]
      | cons q qs =>
          rw [join, List.append_assoc, List.singleton_append, List.flatMap_cons,
            ← ih (List.cons_ne_nil q qs)]
          exact pieces_append '\n' p _

theorem reverse_join (sep : Char) (ps : List Text) :
  (join [sep] ps).reverse = join [sep] (ps.map List.reverse).reverse
  := by
  induction ps with
  | nil => rfl
  | cons p ps ih =>
      cases ps with
      | nil => rfl
      | cons q qs =>
          rw [join_cons (List.cons_ne_nil q qs), List.map_cons, List.reverse_cons,
            join_append [sep] (by simp) (List.cons_ne_nil _ _), ← ih]
          simp [join]

/-- The pieces of a text read backwards. -/
theorem pieces_reverse (sep : Char) (s : Text) :
  pieces sep s.reverse = ((pieces sep s).map List.reverse).reverse
  := by
  rw [← join_pieces sep s, reverse_join, join_pieces, pieces_join]
  · simpa using pieces_ne_nil sep s
  · intro p piece
    rw [List.mem_reverse, List.mem_map] at piece
    obtain ⟨q, piece, rfl⟩ := piece
    rw [List.mem_reverse]
    exact notMem_of_mem_pieces piece

/-! ### Ended rows -/

/-- The rows, each ended by a line feed. -/
def ended (ls : List Text) : Text :=
  ls.flatMap fun line => line ++ ['\n']

@[simp] theorem ended_nil :
  ended [] = []
  := rfl

@[simp] theorem ended_cons (line : Text) (ls : List Text) :
  ended (line :: ls) = line ++ '\n' :: ended ls
  := by
  simp [ended]

@[simp] theorem ended_append (ls ms : List Text) :
  ended (ls ++ ms) = ended ls ++ ended ms
  := List.flatMap_append

theorem join_concat_newline {ls : List Text} (some : ls ≠ []) :
  join ['\n'] ls ++ ['\n'] = ended ls
  := by
  induction ls with
  | nil => contradiction
  | cons line ls ih =>
      cases ls with
      | nil => simp [join]
      | cons next ls => rw [join, List.append_assoc, ih (List.cons_ne_nil _ _)]; simp

/-- A text and a line feed are the rows of the text, each ended. -/
theorem ended_rows (s : Text) :
  ended (rows s) = s ++ ['\n']
  := by
  rw [rows, ← join_concat_newline (pieces_ne_nil '\n' s), join_pieces]

theorem rows_ended_append {ls : List Text} (whole : ∀ line ∈ ls, '\n' ∉ line) (rest : Text) :
  rows (ended ls ++ rest) = ls ++ rows rest
  := by
  induction ls with
  | nil => rfl
  | cons line ls ih =>
      rw [List.forall_mem_cons] at whole
      rw [ended_cons, List.append_assoc, List.cons_append, rows, pieces_append,
        pieces_of_notMem whole.1, ← rows, ih whole.2, List.singleton_append, List.cons_append]

/-- Ended rows come apart again, with an empty one behind them. -/
theorem rows_ended {ls : List Text} (whole : ∀ line ∈ ls, '\n' ∉ line) :
  rows (ended ls) = ls ++ [[]]
  := by
  rw [← List.append_nil (ended ls), rows_ended_append whole]
  rfl

/-! ### Lines -/

/-- The text can stand in a line: it holds neither a line feed nor a carriage return. -/
def InLine (line : Text) : Prop :=
  '\n' ∉ line ∧ '\r' ∉ line

instance (line : Text) : Decidable (InLine line) :=
  inferInstanceAs (Decidable (_ ∧ _))

/-- Without carriage returns the lines of a text are its rows, but for an empty one at the end. -/
theorem lines_of_noReturn {s : Text} (noReturn : '\r' ∉ s) :
  lines s = if (rows s).getLast? = some [] then (rows s).dropLast else rows s
  := by
  have kept : (rows s).dropLast.map (fun p => (stripSuffix? ['\r'] p).getD p)
      = (rows s).dropLast := by
    conv_rhs => rw [← List.map_id (rows s).dropLast]
    apply List.map_congr_left
    intro p piece
    have : stripSuffix? ['\r'] p = none := by
      rw [Option.eq_none_iff_forall_ne_some]
      intro r stripped
      rw [stripSuffix?_eq_some_iff] at stripped
      apply noReturn
      apply mem_of_mem_pieces (List.dropLast_subset _ piece)
      rw [stripped]
      apply List.mem_append_right _ (List.mem_singleton_self _)
    rw [this, Option.getD_none, id]
  unfold lines
  simp only [kept]
  split
  case h_1 h => exact absurd (List.getLast?_eq_none_iff.mp h) (pieces_ne_nil '\n' s)
  case h_2 h => rw [if_pos h]
  case h_3 p some h =>
    rw [if_neg (by rw [h]; simpa using some)]
    apply List.dropLast_append_getLast?
    exact h

theorem inLine_of_mem_lines {s line : Text} (noReturn : '\r' ∉ s) (h : line ∈ lines s) :
  InLine line
  := by
  have row : line ∈ rows s := by
    rw [lines_of_noReturn noReturn] at h
    split at h
    · exact List.dropLast_subset _ h
    · exact h
  exact ⟨notMem_of_mem_pieces row, fun c => noReturn (mem_of_mem_pieces row c)⟩

theorem noReturn_ended {ls : List Text} (inLine : ∀ line ∈ ls, InLine line) :
  '\r' ∉ ended ls
  := by
  simp only [ended, List.mem_flatMap, List.mem_append, not_exists, not_and, not_or]
  intro line h
  exact ⟨(inLine line h).2, by simp⟩

theorem noReturn_join {ls : List Text} (inLine : ∀ line ∈ ls, InLine line) :
  '\r' ∉ join ['\n'] ls
  := by
  cases ls with
  | nil => apply List.not_mem_nil
  | cons line ls =>
      intro h
      apply noReturn_ended inLine
      rw [← join_concat_newline (List.cons_ne_nil line ls)]
      apply List.mem_append_left _ h

/-- Ended lines are read back. -/
theorem lines_ended {ls : List Text} (inLine : ∀ line ∈ ls, InLine line) :
  lines (ended ls) = ls
  := by
  rw [lines_of_noReturn (noReturn_ended inLine), rows_ended fun line h => (inLine line h).1,
    List.getLast?_concat, if_pos rfl, List.dropLast_concat]

/-- Lines with line feeds between them are read back, if the last of them is not empty. -/
theorem lines_join {ls : List Text} (inLine : ∀ line ∈ ls, InLine line)
    (last : ls.getLast? ≠ some []) :
  lines (join ['\n'] ls) = ls
  := by
  by_cases none : ls = []
  · subst none; rfl
  · rw [lines_of_noReturn (noReturn_join inLine), rows,
      pieces_join none fun line h => (inLine line h).1, if_neg last]

/-! ### Trimmed texts -/

theorem isBlankText_trimStart (s : Text) :
  isBlankText (trimStart s) = isBlankText s
  := by
  induction s with
  | nil => rfl
  | cons c s ih =>
      by_cases blank : isBlank c = true
      · rw [trimStart, List.dropWhile_cons_of_pos blank, ← trimStart, ih, isBlankText, isBlankText,
          List.all_cons, blank, Bool.true_and]
      · rw [trimStart, List.dropWhile_cons_of_neg blank]

theorem trimEnd_eq_reverse (s : Text) :
  trimEnd s = (trimStart s.reverse).reverse
  := rfl

theorem isBlankText_reverse (s : Text) :
  isBlankText s.reverse = isBlankText s
  := List.all_reverse

theorem isBlankText_trimEnd (s : Text) :
  isBlankText (trimEnd s) = isBlankText s
  := by
  rw [trimEnd_eq_reverse, isBlankText_reverse, isBlankText_trimStart, isBlankText_reverse]

theorem trimEnd_of_isBlankText {s : Text} (blank : isBlankText s = true) :
  trimEnd s = []
  := by
  rw [trimEnd_eq_reverse, List.reverse_eq_nil_iff, trimStart, List.dropWhile_eq_nil_iff]
  rw [← isBlankText_reverse] at blank
  apply List.all_eq_true.mp blank

/-- Nothing is left of a blank text, and something of every other. -/
theorem isEmpty_trim (s : Text) :
  (trim s).isEmpty = isBlankText s
  := by
  rw [← isBlankText_trimStart, trim]
  cases blank : isBlankText (trimStart s) with
  | true => rw [trimEnd_of_isBlankText blank, List.isEmpty_nil]
  | false =>
      rw [List.isEmpty_eq_false_iff]
      intro none
      rw [← isBlankText_trimEnd, none] at blank
      contradiction

/-- Joined rows are blank if and only if each row is. -/
theorem isBlankText_join (ls : List Text) :
  isBlankText (join ['\n'] ls) = ls.all isBlankText
  := by
  induction ls with
  | nil => rfl
  | cons line ls ih =>
      cases ls with
      | nil => simp [join]
      | cons next rest =>
          rw [join_cons (List.cons_ne_nil _ _), List.all_cons, ← ih]
          simp [isBlankText, show isBlank '\n' = true by decide]

/-- What blanks at the start of a text take from its rows: the blank rows before the first other
one, and the blanks at the start of that. -/
theorem rows_trimStart {s : Text} (some : isBlankText s = false) :
  ∃ before line rest, rows s = before ++ line :: rest
    ∧ (∀ row ∈ before, isBlankText row = true) ∧ isBlankText line = false
    ∧ rows (trimStart s) = trimStart line :: rest
  := by
  induction s with
  | nil => contradiction
  | cons c s ih =>
      by_cases blank : isBlank c = true
      · have trimmed : trimStart (c :: s) = trimStart s := List.dropWhile_cons_of_pos blank
        have others : isBlankText s = false := by simpa [isBlankText, blank] using some
        obtain ⟨before, line, rest, apart, blanks, line_some, kept⟩ := ih others
        rw [trimmed]
        by_cases ends : c = '\n'
        · subst ends
          refine ⟨[] :: before, line, rest, ?_, ?_, line_some, kept⟩
          · rw [rows, pieces_cons_self, ← rows, apart, List.cons_append]
          · simpa [isBlankText] using blanks
        · cases before with
          | nil =>
              refine ⟨[], c :: line, rest, pieces_cons_of_ne ends apart, by simp, ?_, ?_⟩
              · simpa [isBlankText, blank] using line_some
              · rw [kept, trimStart, trimStart, List.dropWhile_cons_of_pos blank]
          | cons row before =>
              refine ⟨(c :: row) :: before, line, rest, pieces_cons_of_ne ends apart, ?_,
                line_some, kept⟩
              simpa [isBlankText, blank] using blanks
      · have trimmed : ∀ t, trimStart (c :: t) = c :: t := fun t => List.dropWhile_cons_of_neg blank
        have ends : c ≠ '\n' := by
          rintro rfl
          exact blank (by decide)
        obtain ⟨line, rest, apart⟩ := List.exists_cons_of_ne_nil (pieces_ne_nil '\n' s)
        have apart := pieces_cons_of_ne ends apart
        refine ⟨[], c :: line, rest, apart, by simp, ?_, ?_⟩
        · simp [isBlankText, blank]
        · rw [trimmed, trimmed]
          exact apart

/-- What blanks at the end of a text take from its rows: the blank rows after the last other one,
and the blanks at the end of that. -/
theorem rows_trimEnd {s : Text} (some : isBlankText s = false) :
  ∃ front line after, rows s = front ++ line :: after
    ∧ (∀ row ∈ after, isBlankText row = true) ∧ isBlankText line = false
    ∧ rows (trimEnd s) = front ++ [trimEnd line]
  := by
  rw [← isBlankText_reverse] at some
  obtain ⟨before, line, rest, apart, blanks, line_some, kept⟩ := rows_trimStart some
  refine ⟨(rest.map List.reverse).reverse, line.reverse, (before.map List.reverse).reverse,
    ?_, ?_, ?_, ?_⟩
  · rw [← List.reverse_reverse s, rows, pieces_reverse, ← rows, apart]
    simp
  · intro row h
    rw [List.mem_reverse, List.mem_map] at h
    obtain ⟨row, h, rfl⟩ := h
    rw [isBlankText_reverse]
    exact blanks row h
  · rwa [isBlankText_reverse]
  · rw [trimEnd_eq_reverse, rows, pieces_reverse, ← rows, kept, trimEnd_eq_reverse,
      List.reverse_reverse]
    simp

theorem mem_of_mem_trimEnd {c : Char} {s : Text} (h : c ∈ trimEnd s) :
  c ∈ s
  := by
  rw [trimEnd, List.mem_reverse] at h
  rw [← List.mem_reverse]
  exact (List.dropWhile_sublist isBlank).subset h

theorem mem_of_mem_trim {c : Char} {s : Text} (h : c ∈ trim s) :
  c ∈ s
  := (List.dropWhile_sublist isBlank).subset (mem_of_mem_trimEnd h)

/-- The last row of a trimmed text is not empty, if anything is left of the text. -/
theorem getLast?_rows_trim {s : Text} (some : isBlankText s = false) :
  (rows (trim s)).getLast? ≠ .some []
  := by
  rw [← isBlankText_trimStart] at some
  obtain ⟨front, line, -, -, -, line_some, kept⟩ := rows_trimEnd some
  rw [trim, kept, List.getLast?_concat, ne_eq, Option.some.injEq]
  intro empty
  rw [← isBlankText_trimEnd, empty] at line_some
  contradiction

/-- The last line of a trimmed text is not empty. -/
theorem getLast?_lines_trim (s : Text) :
  (lines (trim s)).getLast? ≠ some []
  := by
  cases blank : isBlankText s with
  | true =>
      rw [← isEmpty_trim, List.isEmpty_iff] at blank
      rw [blank]
      nofun
  | false =>
      have last := getLast?_rows_trim blank
      unfold lines
      simp only
      split
      case h_1 none => exact absurd (List.getLast?_eq_none_iff.mp none) (pieces_ne_nil '\n' _)
      case h_2 empty => contradiction
      case h_3 some _ =>
        rw [List.getLast?_concat]
        simpa using some

/-- The rows without the blanks before the first and after the last of them. -/
def trimEnds (ls : List Text) : List Text :=
  (ls.modifyHead trimStart).modifyLast trimEnd

/-- What trimming leaves of rows that are not all blank: the rows from the first to the last that
is not blank, without the blanks at the two ends. -/
def Trimmed (ls kept : List Text) : Prop :=
  ∃ before inner after, ls = before ++ inner ++ after
    ∧ (∀ row ∈ before ++ after, isBlankText row = true)
    ∧ (∀ row ∈ inner.head?, isBlankText row = false)
    ∧ (∀ row ∈ inner.getLast?, isBlankText row = false)
    ∧ inner ≠ [] ∧ kept = trimEnds inner

/-- The rows of a trimmed text. -/
theorem trimmed_rows {s : Text} (some : isBlankText s = false) :
  Trimmed (rows s) (rows (trim s))
  := by
  obtain ⟨before, first, rest, apart, before_blank, first_some, trimmed⟩ := rows_trimStart some
  rw [← isBlankText_trimStart] at some
  obtain ⟨front, last, after, ends, after_blank, last_some, kept⟩ := rows_trimEnd some
  rw [trimmed] at ends
  have blanks : ∀ row ∈ before ++ after, isBlankText row = true := by
    rw [List.forall_mem_append]
    exact ⟨before_blank, after_blank⟩
  cases front with
  | nil =>
      obtain ⟨rfl, rfl⟩ := List.cons.inj ends
      refine ⟨before, [first], rest, ?_, blanks, by simpa using first_some,
        by simpa using first_some, List.cons_ne_nil _ _, kept⟩
      rw [apart, List.append_assoc, List.singleton_append]
  | cons row front =>
      obtain ⟨rfl, rfl⟩ := List.cons.inj ends
      refine ⟨before, first :: (front ++ [last]), after, ?_, blanks, by simpa using first_some,
        ?_, List.cons_ne_nil _ _, ?_⟩
      · rw [apart]; simp
      · rw [← List.cons_append, List.getLast?_concat]
        simpa using last_some
      · rw [trim, kept, trimEnds, List.modifyHead_cons, ← List.cons_append,
          List.modifyLast_concat]

/-- What trimming the end leaves of rows: those up to the last that is not blank, without the blanks
at the end of that. Of blank rows one empty row is left. -/
inductive TrimmedEnd : List Text → List Text → Prop
  | blank {ls : List Text} (blank : ∀ row ∈ ls, isBlankText row = true) :
    TrimmedEnd ls [[]]
  | some {front after : List Text} {line : Text} (line_some : isBlankText line = false)
      (after_blank : ∀ row ∈ after, isBlankText row = true) :
    TrimmedEnd (front ++ line :: after) (front ++ [trimEnd line])

/-- The rows of joined rows that are trimmed at the end. -/
theorem trimmedEnd_join {ls : List Text} (whole : ∀ line ∈ ls, '\n' ∉ line) :
  TrimmedEnd ls (rows (trimEnd (join ['\n'] ls)))
  := by
  cases blank : isBlankText (join ['\n'] ls) with
  | true =>
      rw [trimEnd_of_isBlankText blank]
      apply TrimmedEnd.blank
      rwa [isBlankText_join, List.all_eq_true] at blank
  | false =>
      obtain ⟨front, line, after, apart, after_blank, line_some, kept⟩ := rows_trimEnd blank
      have some : ls ≠ [] := by
        rintro rfl
        contradiction
      rw [rows, pieces_join some whole] at apart
      rw [kept, apart]
      exact .some line_some after_blank

/-- Rows of several texts, ended together or each text by itself. -/
theorem ended_map_join {parts : List (List Text)} (some : ∀ ls ∈ parts, ls ≠ []) :
  ended (parts.map (join ['\n'])) = ended parts.flatten
  := by
  induction parts with
  | nil => rfl
  | cons ls parts ih =>
      rw [List.forall_mem_cons] at some
      rw [List.map_cons, ended_cons, List.flatten_cons, ended_append, ← join_concat_newline some.1,
        ih some.2, List.append_assoc, List.singleton_append]

end Text

end NotebookEngine
