import NotebookEngine.Proofs.Text.Words
import NotebookEngine.Script.Return

/-!
# The line that is returned

A fragment is read backwards. Blank lines, and lines that a comment begins, are passed; a line that ends
a block comment begun earlier is skipped with all lines back to the nearest one in which a comment may
begin (`Skipped`). The line before the lines that are skipped is the last one with code (`LastCode`); if
there is none, everything is skipped (`SkippedWhole`). That line is returned if it has a value, and no
other line is touched (`addReturn_exact`).
-/

namespace NotebookEngine

namespace Script

/-! ### Lines without code -/

/-- A line without code: it is blank, or a comment begins it. -/
def IsPassed (line : Text) : Prop :=
  Text.isBlankText line = true ∨ ['/', '/'] <+: Text.trim line ∨ commentOpening <+: Text.trim line

/-- A block comment may begin somewhere in the line. -/
def HasOpening (line : Text) : Prop :=
  commentOpening <:+: Text.trim line

/-- A line that ends a block comment begun on an earlier line. -/
structure IsClosing (line : Text) : Prop where
  notPassed : ¬IsPassed line
  ends : commentClosing <:+ Text.trim line
  alone : ¬HasOpening line

instance (line : Text) : Decidable (IsPassed line) :=
  inferInstanceAs (Decidable (_ ∨ _ ∨ _))

instance (line : Text) : Decidable (HasOpening line) :=
  decidable_of_iff _ Text.occurs_iff

instance (line : Text) : Decidable (IsClosing line) :=
  decidable_of_iff (¬IsPassed line ∧ commentClosing <:+ Text.trim line ∧ ¬HasOpening line)
    ⟨fun ⟨notPassed, ends, alone⟩ => ⟨notPassed, ends, alone⟩,
      fun ⟨notPassed, ends, alone⟩ => ⟨notPassed, ends, alone⟩⟩

theorem isPassedOver_iff {line : Text} :
  isPassedOver (Text.trim line) = true ↔ IsPassed line
  := by
  rw [isPassedOver, Bool.or_eq_true, Bool.or_eq_true, Text.isEmpty_trim, Text.startsWith_iff,
    Text.startsWith_iff, or_assoc, IsPassed]

theorem closesComment_iff {line : Text} (notPassed : ¬IsPassed line) :
  closesComment (Text.trim line) = true ↔ IsClosing line
  := by
  rw [closesComment, Bool.and_eq_true, Bool.not_eq_true', ← Bool.not_eq_true, Text.endsWith_iff,
    Text.occurs_iff]
  exact ⟨fun ⟨ends, alone⟩ => ⟨notPassed, ends, alone⟩, fun closing => ⟨closing.ends, closing.alone⟩⟩

/-- Lines that are skipped when they are read backwards, with nothing skipped before them. -/
inductive Skipped : List Text → Prop
  | nil : Skipped []
  | passed {line : Text} {after : List Text} (passed : IsPassed line) (skipped : Skipped after) :
    Skipped (line :: after)
  | comment {opening closing : Text} {inner after : List Text} (opens : HasOpening opening)
      (within : ∀ line ∈ inner, ¬HasOpening line) (closes : IsClosing closing)
      (skipped : Skipped after) :
    Skipped (opening :: (inner ++ closing :: after))

/-- All lines of a fragment are skipped, if need be as a comment that does not begin. -/
inductive SkippedWhole : List Text → Prop
  | skipped {lines : List Text} (skipped : Skipped lines) : SkippedWhole lines
  | unopened {closing : Text} {inner after : List Text} (within : ∀ line ∈ inner, ¬HasOpening line)
      (closes : IsClosing closing) (skipped : Skipped after) :
    SkippedWhole (inner ++ closing :: after)

/-- The line is the last one with code: all lines after it are skipped, and it is not. -/
structure LastCode (lines before : List Text) (line : Text) (after : List Text) : Prop where
  apart : lines = before ++ line :: after
  notPassed : ¬IsPassed line
  notClosing : ¬IsClosing line
  skipped : Skipped after

/-- There is a last line with code, or all lines are skipped. -/
theorem exists_lastCode (lines : List Text) :
  (∃ before line after, LastCode lines before line after) ∨ SkippedWhole lines
  := by
  -- the lines of `front` are still to be read, in a comment or not
  have reads : ∀ front,
      (∀ after, Skipped after → (∃ before line rest, LastCode (front ++ after) before line rest)
        ∨ SkippedWhole (front ++ after))
      ∧ ∀ inner closing after, (∀ line ∈ inner, ¬HasOpening line) → IsClosing closing →
        Skipped after →
        (∃ before line rest, LastCode (front ++ (inner ++ closing :: after)) before line rest)
          ∨ SkippedWhole (front ++ (inner ++ closing :: after)) := by
    intro front
    induction front using List.reverseRecOn with
    | nil => exact ⟨fun _ skipped => .inr (.skipped skipped),
        fun _ _ _ within closes skipped => .inr (.unopened within closes skipped)⟩
    | append_singleton front line ih =>
        simp only [List.append_assoc, List.singleton_append]
        constructor
        · intro after skipped
          by_cases passed : IsPassed line
          · exact ih.1 _ (.passed passed skipped)
          · by_cases closes : IsClosing line
            · exact ih.2 [] line after nofun closes skipped
            · exact .inl ⟨front, line, after, rfl, passed, closes, skipped⟩
        · intro inner closing after within closes skipped
          by_cases opens : HasOpening line
          · exact ih.1 _ (.comment opens within closes skipped)
          · exact ih.2 (line :: inner) closing after (List.forall_mem_cons.mpr ⟨opens, within⟩) closes
              skipped
  simpa using (reads lines).1 [] .nil

theorem not_skipped_of_closing {inner after : List Text} {closing : Text}
    (within : ∀ line ∈ inner, ¬HasOpening line) (closes : IsClosing closing) :
  ¬Skipped (inner ++ closing :: after)
  := by
  induction inner with
  | nil =>
      rintro (_ | ⟨passed, -⟩ | ⟨opens, -, -, -⟩)
      · exact closes.notPassed passed
      · exact closes.alone opens
  | cons first inner ih =>
      rw [List.forall_mem_cons] at within
      intro skipped
      generalize lines : first :: inner ++ closing :: after = l at skipped
      cases skipped with
      | nil => nomatch lines
      | passed passed skipped =>
          obtain ⟨-, rfl⟩ := List.cons.inj lines
          exact ih within.2 skipped
      | comment opens =>
          obtain ⟨rfl, -⟩ := List.cons.inj lines
          exact within.1 opens

section Unique

/-- Two places in one list are the same, or one of them is before the other. -/
theorem place_cases {front before rest after : List Text} {other line : Text}
    (same : front ++ other :: rest = before ++ line :: after) :
  (front = before ∧ other = line ∧ rest = after)
    ∨ (∃ gap, before = front ++ other :: gap ∧ rest = gap ++ line :: after)
    ∨ ∃ gap, front = before ++ line :: gap ∧ after = gap ++ other :: rest
  := by
  rcases List.append_eq_append_iff.mp same with ⟨gap, longer, behind⟩ | ⟨gap, longer, behind⟩
  · cases gap with
    | nil =>
        obtain ⟨rfl, rfl⟩ := List.cons.inj behind
        exact .inl ⟨by rw [longer, List.append_nil], rfl, rfl⟩
    | cons _ gap =>
        obtain ⟨rfl, rest_eq⟩ := List.cons.inj behind
        exact .inr (.inl ⟨gap, longer, rest_eq⟩)
  · cases gap with
    | nil =>
        obtain ⟨rfl, rfl⟩ := List.cons.inj behind
        exact .inl ⟨by rw [longer, List.append_nil], rfl, rfl⟩
    | cons _ gap =>
        obtain ⟨rfl, after_eq⟩ := List.cons.inj behind
        exact .inr (.inr ⟨gap, longer, after_eq⟩)

variable {lines before after : List Text} {line : Text}

/-- No line with code is skipped. -/
theorem not_skipped_of_code (notPassed : ¬IsPassed line) (notClosing : ¬IsClosing line)
    (skipped : Skipped after) (front : List Text) :
  ¬Skipped (front ++ line :: after)
  := by
  intro all
  generalize same : front ++ line :: after = lines at all
  induction all generalizing front with
  | nil => simp at same
  | passed passed _ ih =>
      cases front with
      | nil =>
          obtain ⟨rfl, -⟩ := List.cons.inj same
          exact notPassed passed
      | cons _ front => exact ih front (List.cons.inj same).2
  | comment opens within closes _ ih =>
      cases front with
      | nil =>
          obtain ⟨-, rfl⟩ := List.cons.inj same
          exact not_skipped_of_closing within closes skipped
      | cons _ front =>
          rcases place_cases (List.cons.inj same).2 with ⟨-, rfl, -⟩ | ⟨gap, rfl, rfl⟩ | ⟨gap, -, rest⟩
          · exact notClosing closes
          · rw [List.forall_mem_append, List.forall_mem_cons] at within
            exact not_skipped_of_closing within.2.2 closes skipped
          · exact ih gap rest.symm

/-- Only one line is the last one with code. -/
theorem LastCode.unique (last : LastCode lines before line after) {front rest : List Text} {other : Text}
    (another : LastCode lines front other rest) :
  front = before ∧ other = line ∧ rest = after
  := by
  rcases place_cases (another.apart.symm.trans last.apart) with same | ⟨gap, -, rfl⟩ | ⟨gap, -, rfl⟩
  · exact same
  · exact absurd another.skipped
      (not_skipped_of_code last.notPassed last.notClosing last.skipped gap)
  · exact absurd last.skipped
      (not_skipped_of_code another.notPassed another.notClosing another.skipped gap)

/-- Where a line is the last one with code, not everything is skipped. -/
theorem LastCode.not_skippedWhole (last : LastCode lines before line after) :
  ¬SkippedWhole lines
  := by
  obtain ⟨apart, notPassed, notClosing, skipped⟩ := last
  rintro (all | ⟨within, closes, others⟩)
  · rw [apart] at all
    exact not_skipped_of_code notPassed notClosing skipped before all
  · rcases place_cases apart.symm with ⟨-, rfl, -⟩ | ⟨gap, rfl, rfl⟩ | ⟨gap, -, rfl⟩
    · exact notClosing closes
    · rw [List.forall_mem_append, List.forall_mem_cons] at within
      exact not_skipped_of_closing within.2.2 closes skipped
    · exact not_skipped_of_code notPassed notClosing skipped gap others

end Unique

/-! ### Lines read backwards -/

section Backward

variable {d : Dialect} {lines before after : List Text} {line : Text}

theorem wrapBackward_of_passed (passed : IsPassed line) (rest : List Text) :
  wrapBackward d false (line :: rest) = line :: wrapBackward d false rest
  := by
  simp only [wrapBackward, isPassedOver_iff.mpr passed, ↓reduceIte]

theorem wrapBackward_of_closing (closes : IsClosing line) (rest : List Text) :
  wrapBackward d false (line :: rest) = line :: wrapBackward d true rest
  := by
  simp only [wrapBackward, isPassedOver_iff, closes.notPassed,
    (closesComment_iff closes.notPassed).mpr closes, ↓reduceIte]

theorem wrapBackward_of_code (notPassed : ¬IsPassed line) (notClosing : ¬IsClosing line)
    (rest : List Text) :
  wrapBackward d false (line :: rest)
    = (if d.isStatement (Text.trim line) then line else wrapInReturn line) :: rest
  := by
  simp only [wrapBackward, isPassedOver_iff, notPassed, closesComment_iff notPassed, notClosing,
    ↓reduceIte]
  split <;> rfl

/-- In a comment the lines go on to one in which it may begin. -/
theorem wrapBackward_within {inner : List Text} (within : ∀ line ∈ inner, ¬HasOpening line)
    (rest : List Text) :
  wrapBackward d true (inner ++ rest) = inner ++ wrapBackward d true rest
  := by
  induction inner with
  | nil => rfl
  | cons line inner ih =>
      rw [List.forall_mem_cons, HasOpening, ← Text.occurs_iff, Bool.not_eq_true] at within
      rw [List.cons_append, wrapBackward, within.1]
      exact congrArg _ (ih within.2)

theorem wrapBackward_of_opening (opens : HasOpening line) (rest : List Text) :
  wrapBackward d true (line :: rest) = line :: wrapBackward d false rest
  := by
  rw [HasOpening, ← Text.occurs_iff] at opens
  rw [wrapBackward, opens]
  rfl

/-- Skipped lines stay as they are, and the reading goes on before them. -/
theorem Skipped.wrapBackward (skipped : Skipped after) (rest : List Text) :
  wrapBackward d false (after.reverse ++ rest) = after.reverse ++ wrapBackward d false rest
  := by
  induction skipped generalizing rest with
  | nil => rfl
  | passed passed _ ih =>
      rw [List.reverse_cons, List.append_assoc, ih, List.singleton_append,
        wrapBackward_of_passed passed, List.append_assoc, List.singleton_append]
  | @comment opening closing inner after opens within closes _ ih =>
      have reversed : ∀ l : List Text, (opening :: (inner ++ closing :: after)).reverse ++ l
          = after.reverse ++ closing :: (inner.reverse ++ opening :: l) := by
        simp
      rw [reversed, reversed, ih, wrapBackward_of_closing closes,
        wrapBackward_within (by simpa using within), wrapBackward_of_opening opens]

theorem SkippedWhole.wrapBackward (whole : SkippedWhole lines) :
  wrapBackward d false lines.reverse = lines.reverse
  := by
  cases whole with
  | skipped skipped =>
      have kept := skipped.wrapBackward (d := d) []
      rwa [List.append_nil, Script.wrapBackward, List.append_nil] at kept
  | @unopened closing inner after within closes skipped =>
      have backward : ∀ line ∈ inner.reverse, ¬HasOpening line := by simpa using within
      have kept := wrapBackward_within (d := d) backward []
      rw [List.append_nil] at kept
      rw [List.reverse_append, List.reverse_cons, List.append_assoc, List.singleton_append,
        skipped.wrapBackward, wrapBackward_of_closing closes, kept, Script.wrapBackward, List.append_nil]

theorem LastCode.wrapBackward (last : LastCode lines before line after) :
  (wrapBackward d false lines.reverse).reverse
    = before ++ (if d.isStatement (Text.trim line) then line else wrapInReturn line) :: after
  := by
  rw [last.apart, List.reverse_append, List.reverse_cons, List.append_assoc, List.singleton_append,
    last.skipped.wrapBackward, wrapBackward_of_code last.notPassed last.notClosing]
  simp

end Backward

/-! ### Lines that are returned -/

/-- The rows of a fragment before and after its last expression is returned. -/
inductive Returned : List Text → List Text → Prop
  | unchanged (ls : List Text) :
    Returned ls ls
  | wrapped (before : List Text) (line : Text) (after : List Text) :
    Returned (before ++ line :: after) (before ++ wrapInReturn line :: after)

theorem returned_wrapBackward (d : Dialect) (ls : List Text) :
  Returned ls (wrapBackward d false ls.reverse).reverse
  := by
  rcases exists_lastCode ls with ⟨before, line, after, last⟩ | whole
  · rw [last.wrapBackward]
    split
    case isTrue =>
      rw [last.apart]
      exact .unchanged _
    case isFalse =>
      rw [last.apart]
      exact .wrapped before line after
  · rw [whole.wrapBackward, List.reverse_reverse]
    exact .unchanged ls

theorem newline_notMem_wrapInReturn {line : Text} (whole : '\n' ∉ line) :
  '\n' ∉ wrapInReturn line
  := by
  simp only [wrapInReturn, List.mem_append, not_or]
  refine ⟨⟨?_, by decide⟩, ?_⟩
  · intro h
    exact whole ((List.takeWhile_sublist Text.isBlank).subset h)
  · intro h
    have h := Text.mem_of_mem_trim h
    apply whole
    apply Text.mem_of_mem_trimEnd
    cases stripped : Text.stripSuffix? [';'] (Text.trimEnd line) with
    | none => rwa [stripped] at h
    | some rest =>
        rw [stripped] at h
        rw [Text.stripSuffix?_eq_some_iff.mp stripped]
        exact List.mem_append_left _ h

theorem Returned.newline_notMem {ls ms : List Text} (returned : Returned ls ms)
    (whole : ∀ line ∈ ls, '\n' ∉ line) :
  ∀ line ∈ ms, '\n' ∉ line
  := by
  cases returned with
  | unchanged => exact whole
  | wrapped before line after =>
      simp only [List.forall_mem_append, List.forall_mem_cons] at whole ⊢
      exact ⟨whole.1, newline_notMem_wrapInReturn whole.2.1, whole.2.2⟩

/-- The rows of a fragment whose last expression is returned. -/
theorem rows_addReturn (d : Dialect) (code : Text) :
  Text.rows (addReturn d code)
    = (wrapBackward d false (Text.rows (Text.trimEnd code)).reverse).reverse
  := by
  apply Text.pieces_join
  · rw [ne_eq, ← List.length_eq_zero_iff, List.length_reverse, length_wrapBackward,
      List.length_reverse, List.length_eq_zero_iff]
    apply Text.pieces_ne_nil
  · apply (returned_wrapBackward d _).newline_notMem
    intro line h
    exact Text.notMem_of_mem_pieces h

theorem returned_addReturn (d : Dialect) (code : Text) :
  Returned (Text.rows (Text.trimEnd code)) (Text.rows (addReturn d code))
  := by
  rw [rows_addReturn]
  exact returned_wrapBackward d _

/-- The line with `return ` after its indentation, and what stands in it without one semicolon at its end
and without the blanks around. -/
def returnedLine (line : Text) : Text :=
  let expression := Text.trim line
  Text.indent line ++ "return ".toList
    ++ Text.trim ((Text.stripSuffix? [';'] expression).getD expression)

theorem stripSuffix?_append {p s t : Text} (long : p.length ≤ t.length) :
  (Text.stripSuffix? p (s ++ t)).getD (s ++ t) = s ++ (Text.stripSuffix? p t).getD t
  := by
  cases stripped : Text.stripSuffix? p t with
  | some r =>
      rw [Text.stripSuffix?_eq_some_iff] at stripped
      have longer : Text.stripSuffix? p (s ++ t) = some (s ++ r) :=
        Text.stripSuffix?_eq_some_iff.mpr (by rw [stripped, List.append_assoc])
      rw [longer]
      rfl
  | none =>
      have whole : Text.stripSuffix? p (s ++ t) = none := by
        rw [Option.eq_none_iff_forall_ne_some] at stripped ⊢
        intro r strips
        rw [Text.stripSuffix?_eq_some_iff] at strips
        have ends : p <:+ t :=
          List.suffix_of_suffix_length_le ⟨r, strips.symm⟩ (List.suffix_append s t) long
        obtain ⟨r, same⟩ := ends
        exact stripped r (Text.stripSuffix?_eq_some_iff.mpr same.symm)
      rw [whole]
      rfl

theorem wrapInReturn_eq (line : Text) :
  wrapInReturn line = returnedLine line
  := by
  cases blank : Text.isBlankText line with
  | true =>
      have none : Text.trim line = [] := List.isEmpty_iff.mp (by rw [Text.isEmpty_trim, blank])
      simp only [wrapInReturn, returnedLine, Text.trimEnd_of_isBlankText blank, none]
  | false =>
      have front := Text.trimStart_indent line
      have some : Text.isBlankText (Text.trimStart line) = false := by rwa [Text.isBlankText_trimStart]
      have apart : Text.trimEnd line = Text.indent line ++ Text.trim line := by
        conv_lhs => rw [← front]
        exact Text.trimEnd_append some
      have long : [';'].length ≤ (Text.trim line).length := by
        rw [List.length_singleton, Nat.one_le_iff_ne_zero, ne_eq, List.length_eq_zero_iff,
          ← List.isEmpty_iff, Text.isEmpty_trim, blank]
        nofun
      simp only [wrapInReturn, returnedLine, apart, stripSuffix?_append long,
        Text.trim_blank_append (Text.isBlankText_indent line)]

/-! ### Lines without a value -/

/-- The line has no value: it closes a block, or it begins with a keyword and with nothing, a space, a tab,
a parenthesis or a semicolon behind it. -/
def Dialect.HasNoValue (d : Dialect) (line : Text) : Prop :=
  ['\x7d'] <:+ Text.trim line
    ∨ ∃ keyword ∈ d.keywords, ∃ rest, Text.trim line = keyword ++ rest
      ∧ ∀ c ∈ rest.head?, c ∈ [' ', '\t', '(', ';']

theorem endsKeyword_iff {rest : Text} :
  endsKeyword rest = true ↔ ∀ c ∈ rest.head?, c ∈ [' ', '\t', '(', ';']
  := by
  cases rest with
  | nil => simp [endsKeyword]
  | cons c rest => simp [endsKeyword, or_assoc]

theorem startsWithKeyword_iff {line keyword : Text} :
  startsWithKeyword line keyword = true
    ↔ ∃ rest, line = keyword ++ rest ∧ ∀ c ∈ rest.head?, c ∈ [' ', '\t', '(', ';']
  := by
  rw [startsWithKeyword]
  cases stripped : Text.stripPrefix? keyword line with
  | some rest =>
      rw [Text.stripPrefix?_eq_some_iff] at stripped
      simp only [stripped, endsKeyword_iff, List.append_cancel_left_eq, exists_eq_left']
  | none =>
      simp only [Bool.false_eq_true, false_iff, not_exists, not_and]
      intro rest same
      rw [Text.stripPrefix?_eq_some_iff.mpr same] at stripped
      contradiction

theorem Dialect.isStatement_iff {d : Dialect} {line : Text} :
  d.isStatement (Text.trim line) = true ↔ d.HasNoValue line
  := by
  simp only [isStatement, startsStatement, Bool.or_eq_true, List.any_eq_true, Text.endsWith_iff,
    startsWithKeyword_iff, HasNoValue]

/-- A line with a value is not the one that is returned in its place. -/
theorem returnedLine_ne {d : Dialect} {line : Text} (value : ¬d.HasNoValue line) :
  returnedLine line ≠ line
  := by
  intro same
  apply value
  have isKeyword : "return".toList ∈ d.keywords := by cases d <;> decide
  have front := Text.trimStart_indent line
  rw [returnedLine] at same
  generalize Text.trim ((Text.stripSuffix? [';'] (Text.trim line)).getD (Text.trim line)) = e at same
  have begins : Text.trimStart line = "return".toList ++ (' ' :: e) := by
    apply @List.append_cancel_left _ (Text.indent line)
    rw [front, ← List.append_assoc]
    conv_lhs => rw [← same]
    simp
  refine .inr ⟨_, isKeyword, ?_⟩
  rw [Text.trim, begins]
  cases blank : Text.isBlankText (' ' :: e) with
  | true => exact ⟨[], by rw [Text.trimEnd_append_blank blank]; rfl, by simp⟩
  | false =>
      have blank : Text.isBlankText e = false := blank
      refine ⟨' ' :: Text.trimEnd e, ?_, by simp⟩
      rw [show "return".toList ++ (' ' :: e) = "return ".toList ++ e from by simp,
        Text.trimEnd_append blank]
      simp

/-! ### The exact rewriting -/

theorem SkippedWhole.addReturn {d : Dialect} {code : Text}
    (whole : SkippedWhole (Text.rows (Text.trimEnd code))) :
  addReturn d code = Text.trimEnd code
  := by
  apply Text.rows_inj
  rw [rows_addReturn, whole.wrapBackward, List.reverse_reverse]

section Last

variable {d : Dialect} {code line : Text} {before after : List Text}
  (last : LastCode (Text.rows (Text.trimEnd code)) before line after)

include last

theorem LastCode.addReturn (noValue : d.HasNoValue line) :
  addReturn d code = Text.trimEnd code
  := by
  rw [← Dialect.isStatement_iff] at noValue
  apply Text.rows_inj
  rw [rows_addReturn, last.wrapBackward, if_pos noValue, ← last.apart]

/-- The last line with code is returned if it has a value. -/
theorem LastCode.rows_addReturn (value : ¬d.HasNoValue line) :
  Text.rows (Script.addReturn d code) = before ++ returnedLine line :: after
  := by
  rw [← Dialect.isStatement_iff] at value
  rw [Script.rows_addReturn, last.wrapBackward, if_neg value, wrapInReturn_eq]

theorem LastCode.addReturn_ne_iff :
  Script.addReturn d code ≠ Text.trimEnd code ↔ ¬d.HasNoValue line
  := by
  constructor
  case mp => exact fun changed noValue => changed (last.addReturn noValue)
  case mpr =>
    intro value same
    have rows := last.rows_addReturn value
    rw [same, last.apart, List.append_cancel_left_eq] at rows
    exact returnedLine_ne value (List.cons.inj rows).1.symm

end Last

/-- What becomes of a fragment. It has as many rows as before, without the blanks at its end. It has one
last line with code, or everything in it is skipped. It is changed if and only if that line is there and
has a value; then that line is returned, and every other row is as it was. -/
theorem addReturn_exact (d : Dialect) (code : Text) :
  (Text.rows (addReturn d code)).length = (Text.rows (Text.trimEnd code)).length
    ∧ ((∃ before line after, LastCode (Text.rows (Text.trimEnd code)) before line after
        ∧ ∀ front other rest, LastCode (Text.rows (Text.trimEnd code)) front other rest →
          front = before ∧ other = line ∧ rest = after)
      ∨ SkippedWhole (Text.rows (Text.trimEnd code))
        ∧ ∀ before line after, ¬LastCode (Text.rows (Text.trimEnd code)) before line after)
    ∧ (addReturn d code ≠ Text.trimEnd code ↔ ∃ before line after,
      LastCode (Text.rows (Text.trimEnd code)) before line after ∧ ¬d.HasNoValue line)
    ∧ ∀ before line after, LastCode (Text.rows (Text.trimEnd code)) before line after →
      ¬d.HasNoValue line →
        returnedLine line ≠ line
          ∧ Text.rows (addReturn d code) = before ++ returnedLine line :: after
  := by
  refine ⟨?_, ?_, ⟨?_, ?_⟩, ?_⟩
  case refine_1 =>
    rw [rows_addReturn, List.length_reverse, length_wrapBackward, List.length_reverse]
  case refine_2 =>
    rcases exists_lastCode (Text.rows (Text.trimEnd code)) with ⟨before, line, after, last⟩ | whole
    · exact .inl ⟨before, line, after, last, fun _ _ _ => last.unique⟩
    · exact .inr ⟨whole, fun _ _ _ last => last.not_skippedWhole whole⟩
  case refine_3 =>
    intro changed
    rcases exists_lastCode (Text.rows (Text.trimEnd code)) with ⟨before, line, after, last⟩ | whole
    · exact ⟨before, line, after, last, last.addReturn_ne_iff.mp changed⟩
    · exact absurd whole.addReturn changed
  case refine_4 =>
    rintro ⟨before, line, after, last, value⟩
    exact last.addReturn_ne_iff.mpr value
  case refine_5 =>
    intro before line after last value
    exact ⟨returnedLine_ne value, last.rows_addReturn value⟩

-- The blank line and the comment behind the last line with code are skipped.
example : addReturn .plain "const n = 2;\n  n * 2; \n\n/*\n * twice\n */\n".toList
    = "const n = 2;\n  return n * 2\n\n/*\n * twice\n */".toList := by decide +kernel

end Script

end NotebookEngine
