import NotebookEngine.Proofs.Script.Returns

/-!
# Comments behind a script

Blank lines and comments may stand behind a fragment (`Trailer`). A comment over several lines is skipped if
its last line is seen to end it, or if no line needs that; but the way back goes only to the nearest line in
which a comment may begin, which can be one within the comment (`BlockComment.IsSeen`). The fragment is
returned as if nothing stood behind it if all comments are seen, and if one is not, a line within a comment
is taken for the last one with code (`addReturn_trailing`).
-/

namespace NotebookEngine

namespace Script

/-! ### Lines behind a script -/

/-- A block comment that takes up whole lines, with nothing but blanks around it. -/
structure BlockComment where
  indent : Text
  content : Text
  blanks : Text
  indent_blank : Text.isBlankText indent = true
  blanks_blank : Text.isBlankText blanks = true
  indent_inLine : '\n' ∉ indent
  blanks_inLine : '\n' ∉ blanks
  closed : ¬commentClosing <:+: content

/-- The comment as it is written. -/
def BlockComment.text (c : BlockComment) : Text :=
  (c.indent ++ commentOpening) ++ (c.content ++ (commentClosing ++ c.blanks))

/-- A line or a comment that may stand behind a script. -/
inductive Trailer where
  | blank (line : Text) (inLine : '\n' ∉ line) (blank : Text.isBlankText line = true)
  | note (line : Text) (inLine : '\n' ∉ line) (begins : ['/', '/'] <+: Text.trim line)
  | comment (c : BlockComment)

/-- The trailer as it is written. -/
def Trailer.text : Trailer → Text
  | blank line _ _ => line
  | note line _ _ => line
  | comment c => c.text

/-- The text of trailers, one below the other. -/
def trailing (ts : List Trailer) : Text :=
  Text.join ['\n'] (ts.map Trailer.text)

/-- The comment is seen when it is read backwards. If it has several lines, either each line of it after the
first is passed by itself; or its last line is seen to end it, and so are passed all lines that stand
before one within the comment in which a comment may begin. -/
def BlockComment.IsSeen (c : BlockComment) : Prop :=
  ∀ first middle last, Text.rows c.text = first :: (middle ++ [last]) →
    (IsPassed last ∧ ∀ line ∈ middle, IsPassed line)
      ∨ (IsClosing last ∧ ∀ before line after, middle = before ++ line :: after →
        (∃ other ∈ after, HasOpening other) → IsPassed line)

/-! ### The lines of a comment -/

theorem commentOpening_prefix {indent : Text} (blank : Text.isBlankText indent = true) (t : Text) :
  commentOpening <+: Text.trim (indent ++ (commentOpening ++ t))
  := by
  rw [Text.trim, Text.trimStart_blank_append blank rfl]
  exact Text.prefix_trimEnd_append rfl t

theorem commentClosing_suffix {blanks : Text} (blank : Text.isBlankText blanks = true) (t : Text) :
  commentClosing <:+ Text.trim (t ++ (commentClosing ++ blanks))
  := by
  have front : ∃ v, Text.trimStart (t ++ (commentClosing ++ blanks)) = v ++ (commentClosing ++ blanks) := by
    rw [Text.trimStart, List.dropWhile_append]
    split
    case isTrue => exact ⟨[], rfl⟩
    case isFalse => exact ⟨_, rfl⟩
  obtain ⟨v, front⟩ := front
  rw [Text.trim, front, ← List.append_assoc, Text.trimEnd_append_blank blank, Text.trimEnd_append rfl]
  exact List.suffix_append v commentClosing

/-- A comment of one line is passed. In a comment of several lines the first one is passed and a comment
may begin in it, no line between the first and the last ends the comment, and the last one does. -/
theorem BlockComment.rows_cases (c : BlockComment) :
  (Text.rows c.text = [c.text] ∧ IsPassed c.text)
    ∨ ∃ first middle last, Text.rows c.text = first :: (middle ++ [last])
      ∧ IsPassed first ∧ HasOpening first ∧ (∀ line ∈ middle, ¬IsClosing line)
      ∧ commentClosing <:+ Text.trim last
  := by
  have front_inLine : '\n' ∉ c.indent ++ commentOpening := by
    rw [List.mem_append, not_or]
    exact ⟨c.indent_inLine, by decide⟩
  have back_inLine : '\n' ∉ commentClosing ++ c.blanks := by
    rw [List.mem_append, not_or]
    exact ⟨by decide, c.blanks_inLine⟩
  obtain ⟨front, last, apart⟩ := Text.exists_rows_eq c.content
  have behind := Text.pieces_append_back back_inLine apart
  have opens (t : Text) : commentOpening <+: Text.trim (c.indent ++ commentOpening ++ t) := by
    rw [List.append_assoc]
    exact commentOpening_prefix c.indent_blank t
  cases front with
  | nil =>
      left
      have single : Text.rows c.text = [c.indent ++ commentOpening ++ (last ++ (commentClosing ++ c.blanks))] :=
        Text.pieces_append_front front_inLine behind
      have same : c.text = c.indent ++ commentOpening ++ (last ++ (commentClosing ++ c.blanks)) := by
        rw [← Text.join_pieces '\n' c.text, ← Text.rows, single, Text.join]
      rw [← same] at single
      refine ⟨single, .inr (.inr ?_)⟩
      rw [same]
      exact opens _
  | cons first middle =>
      right
      refine ⟨_, middle, _, Text.pieces_append_front front_inLine behind, .inr (.inr (opens first)),
        (opens first).isInfix, ?_, commentClosing_suffix c.blanks_blank last⟩
      intro line stands closes
      -- the comment would have ended in its content
      have row : line ∈ Text.pieces '\n' c.content := by
        rw [← Text.rows, apart]
        exact List.mem_append_left _ (List.mem_cons_of_mem _ stands)
      apply c.closed
      exact (closes.ends.isInfix.trans (Text.isInfix_trim line)).trans (Text.isInfix_of_mem_pieces row)

/-! ### Skipped lines put together -/

theorem skipped_of_passed {lines : List Text} (passed : ∀ line ∈ lines, IsPassed line) :
  Skipped lines
  := by
  induction lines with
  | nil => exact .nil
  | cons line lines ih =>
      rw [List.forall_mem_cons] at passed
      exact .passed passed.1 (ih passed.2)

theorem Skipped.append {ls ms : List Text} (skipped : Skipped ls) (others : Skipped ms) :
  Skipped (ls ++ ms)
  := by
  induction skipped with
  | nil => exact others
  | passed passed _ ih => exact .passed passed ih
  | comment opens within closes _ ih =>
      rw [List.cons_append, List.append_assoc, List.cons_append]
      exact .comment opens within closes ih

theorem LastCode.append {ls before after : List Text} {line : Text} (last : LastCode ls before line after)
    {ms : List Text} (skipped : Skipped ms) :
  LastCode (ls ++ ms) before line (after ++ ms)
  where
  apart := by rw [last.apart, List.append_assoc, List.cons_append]
  notPassed := last.notPassed
  notClosing := last.notClosing
  skipped := last.skipped.append skipped

theorem LastCode.prepend {ls before after : List Text} {line : Text} (last : LastCode ls before line after)
    (front : List Text) :
  LastCode (front ++ ls) (front ++ before) line after
  where
  apart := by rw [last.apart, List.append_assoc]
  notPassed := last.notPassed
  notClosing := last.notClosing
  skipped := last.skipped

/-- The last of the lines of a kind. -/
theorem exists_last {p : Text → Prop} {lines : List Text} (some : ∃ line ∈ lines, p line) :
  ∃ before line after, lines = before ++ line :: after ∧ p line ∧ ∀ other ∈ after, ¬p other
  := by
  induction lines with
  | nil => simp at some
  | cons first rest ih =>
      by_cases further : ∃ line ∈ rest, p line
      · obtain ⟨before, line, after, rfl, here, others⟩ := ih further
        exact ⟨first :: before, line, after, rfl, here, others⟩
      · rw [List.exists_mem_cons_iff] at some
        push Not at further
        exact ⟨[], first, rest, rfl, some.resolve_right (by push Not; exact further), further⟩

/-! ### Comments that are seen, and others -/

theorem BlockComment.isSeen_iff {c : BlockComment} {first last : Text} {middle : List Text}
    (apart : Text.rows c.text = first :: (middle ++ [last])) :
  c.IsSeen ↔ (IsPassed last ∧ ∀ line ∈ middle, IsPassed line)
    ∨ (IsClosing last ∧ ∀ before line after, middle = before ++ line :: after →
      (∃ other ∈ after, HasOpening other) → IsPassed line)
  := by
  refine ⟨fun seen => seen first middle last apart, ?_⟩
  intro seen _ _ _ same
  rw [apart] at same
  obtain ⟨rfl, tails⟩ := List.cons.inj same
  obtain ⟨rfl, last_same⟩ := List.append_inj' tails rfl
  obtain rfl := List.singleton_inj.mp last_same
  exact seen

/-- A comment that is seen is skipped. -/
theorem BlockComment.skipped_of_isSeen {c : BlockComment} (seen : c.IsSeen) :
  Skipped (Text.rows c.text)
  := by
  rcases c.rows_cases with ⟨single, passed⟩ | ⟨first, middle, last, apart, first_passed, opens, -, -⟩
  · rw [single]
    exact .passed passed .nil
  rw [apart]
  rcases seen first middle last apart with ⟨last_passed, passed⟩ | ⟨closes, passed⟩
  · apply skipped_of_passed
    rw [List.forall_mem_cons, List.forall_mem_append, List.forall_mem_singleton]
    exact ⟨first_passed, passed, last_passed⟩
  · by_cases within : ∃ line ∈ middle, HasOpening line
    · -- the way back from the last line ends at the last opening within the comment
      obtain ⟨before, line, inner, rfl, here, others⟩ := exists_last within
      have front : ∀ other ∈ before, IsPassed other := by
        intro other stands
        obtain ⟨head, tail, rfl⟩ := List.append_of_mem stands
        apply passed head other (tail ++ line :: inner) (by simp)
        exact ⟨line, List.mem_append_right _ List.mem_cons_self, here⟩
      have skipped := (skipped_of_passed front).append (.comment here others closes .nil)
      rw [List.append_assoc]
      exact .passed first_passed skipped
    · push Not at within
      exact .comment opens within closes .nil

/-- The last of the lines that are not passed is one with code, if it ends no comment and skipped lines
follow. -/
theorem exists_lastCode_of_notPassed {lines : List Text} (some : ∃ line ∈ lines, ¬IsPassed line)
    (open_ : ∀ line ∈ lines, ¬IsClosing line) {rest : List Text} (skipped : Skipped rest) :
  ∃ before line after, LastCode (lines ++ rest) before line after
  := by
  obtain ⟨before, line, after, rfl, notPassed, others⟩ := exists_last some
  push Not at others
  have after_skipped : Skipped (after ++ rest) := (skipped_of_passed others).append skipped
  exact ⟨before, line, after ++ rest, by simp, notPassed, open_ line (by simp), after_skipped⟩

/-- In a comment that is not seen a line is taken for one with code. -/
theorem BlockComment.exists_lastCode {c : BlockComment} (unseen : ¬c.IsSeen) :
  ∃ before line after, LastCode (Text.rows c.text) before line after
  := by
  rcases c.rows_cases with ⟨single, -⟩ | ⟨first, middle, last, apart, -, -, open_, ends⟩
  · refine absurd (fun first middle last apart => ?_) unseen
    rw [single] at apart
    simp at apart
  rw [isSeen_iff apart] at unseen
  push Not at unseen
  obtain ⟨notPassed, notClosed⟩ := unseen
  rw [apart]
  suffices found : ∃ before line after, LastCode (middle ++ [last]) before line after by
    obtain ⟨before, line, after, found⟩ := found
    exact ⟨_, line, after, found.prepend [first]⟩
  by_cases last_passed : IsPassed last
  case pos => exact exists_lastCode_of_notPassed (notPassed last_passed) open_ (.passed last_passed .nil)
  by_cases opens : HasOpening last
  case pos => exact ⟨middle, last, [], rfl, last_passed, fun closing => closing.alone opens, .nil⟩
  have closes : IsClosing last := ⟨last_passed, ends, opens⟩
  obtain ⟨before, line, after, cut, ⟨other, stands, other_opens⟩, line_notPassed⟩ := notClosed closes
  -- the way back from the last line ends at the last opening, and a line before that is not passed
  have some : ∃ opening ∈ middle, HasOpening opening := ⟨other, by simp [cut, stands], other_opens⟩
  obtain ⟨front, opening, inner, rfl, here, within⟩ := exists_last some
  have line_mem : line ∈ front := by
    rcases place_cases cut with ⟨-, -, rfl⟩ | ⟨gap, -, rfl⟩ | ⟨gap, rfl, -⟩
    · exact absurd other_opens (within other stands)
    · exact absurd other_opens (within other (by simp [stands]))
    · simp
  rw [List.forall_mem_append] at open_
  rw [List.append_assoc]
  exact exists_lastCode_of_notPassed ⟨line, line_mem, line_notPassed⟩ open_.1
    (.comment here within closes .nil)

/-! ### Trailers -/

/-- Trailers are skipped if all comments among them are seen. -/
theorem skipped_trailers {ts : List Trailer} (seen : ∀ c, .comment c ∈ ts → c.IsSeen) :
  Skipped (ts.flatMap fun t => Text.rows t.text)
  := by
  induction ts with
  | nil => exact .nil
  | cons t ts ih =>
      have others := ih fun c stands => seen c (List.mem_cons_of_mem _ stands)
      rw [List.flatMap_cons]
      refine Skipped.append ?_ others
      cases t with
      | blank line inLine blank =>
          rw [Trailer.text, Text.rows, Text.pieces_of_notMem inLine]
          exact .passed (.inl blank) .nil
      | note line inLine begins =>
          rw [Trailer.text, Text.rows, Text.pieces_of_notMem inLine]
          exact .passed (.inr (.inl begins)) .nil
      | comment c => exact c.skipped_of_isSeen (seen c List.mem_cons_self)

/-- If a comment among trailers is not seen, a line of one such comment is taken for the last one with
code. -/
theorem exists_lastCode_trailers {ts : List Trailer} (unseen : ∃ c, .comment c ∈ ts ∧ ¬c.IsSeen) :
  ∃ c before line after, .comment c ∈ ts ∧ ¬c.IsSeen ∧ line ∈ Text.rows c.text
    ∧ LastCode (ts.flatMap fun t => Text.rows t.text) before line after
  := by
  induction ts with
  | nil => simp at unseen
  | cons t ts ih =>
      rw [List.flatMap_cons]
      by_cases further : ∃ c, .comment c ∈ ts ∧ ¬c.IsSeen
      · obtain ⟨c, before, line, after, stands, c_unseen, within, last⟩ := ih further
        exact ⟨c, _, line, after, List.mem_cons_of_mem _ stands, c_unseen, within, last.prepend _⟩
      · obtain ⟨c, stands, c_unseen⟩ := unseen
        push Not at further
        obtain rfl : .comment c = t := by
          rcases List.mem_cons.mp stands with same | stands
          · exact same
          · exact absurd (further c stands) c_unseen
        obtain ⟨before, line, after, last⟩ := c.exists_lastCode c_unseen
        refine ⟨c, before, line, _, List.mem_cons_self, c_unseen, ?_,
          last.append (skipped_trailers further)⟩
        rw [last.apart]
        simp

/-! ### Scripts with comments behind -/

section Trailing

variable {d : Dialect} {code : Text} {ts : List Trailer} (code_solid : Text.Solid code)
  (solid : Text.Solid (trailing ts))

theorem rows_trailing (solid : Text.Solid (trailing ts)) :
  Text.rows (trailing ts) = ts.flatMap fun t => Text.rows t.text
  := by
  have some : ts.map Trailer.text ≠ [] := by
    intro none
    obtain ⟨c, last, -⟩ := solid
    rw [trailing, none] at last
    nomatch last
  rw [trailing, Text.rows_join some, List.flatMap_map]

include solid in
theorem trimEnd_trailing (code : Text) :
  Text.trimEnd (code ++ '\n' :: trailing ts) = code ++ '\n' :: trailing ts
  := by
  rw [← List.singleton_append, ← List.append_assoc]
  exact (solid.append _).trimEnd

theorem rows_append_newline (s t : Text) :
  Text.rows (s ++ '\n' :: t) = Text.rows s ++ Text.rows t
  := Text.pieces_append '\n' s t

include code_solid solid

/-- Behind skipped lines the fragment is returned as it is by itself. -/
theorem addReturn_of_skipped (skipped : Skipped (Text.rows (trailing ts))) :
  addReturn d (code ++ '\n' :: trailing ts) = addReturn d code ++ '\n' :: trailing ts
  := by
  apply Text.rows_inj
  rw [rows_append_newline, rows_addReturn, rows_addReturn, trimEnd_trailing solid, code_solid.trimEnd,
    rows_append_newline, List.reverse_append, skipped.wrapBackward, List.reverse_append,
    List.reverse_reverse]

section Last

variable {before after : List Text} {line : Text}
  (last : LastCode (Text.rows (trailing ts)) before line after)

include last

omit code_solid in
theorem LastCode.behind (code : Text) :
  LastCode (Text.rows (Text.trimEnd (code ++ '\n' :: trailing ts))) (Text.rows code ++ before) line
    after
  := by
  rw [trimEnd_trailing solid, rows_append_newline]
  exact last.prepend _

/-- If a line behind the fragment is taken for the last one with code, the fragment itself is left as it
is. -/
theorem LastCode.addReturn_trailing_iff :
  Script.addReturn d (code ++ '\n' :: trailing ts)
      = Script.addReturn d code ++ '\n' :: trailing ts
    ↔ Script.addReturn d code = code ∧ d.HasNoValue line
  := by
  have whole := last.behind solid code
  by_cases noValue : d.HasNoValue line
  case pos =>
    rw [whole.addReturn noValue, trimEnd_trailing solid, List.append_cancel_right_eq,
      and_iff_left noValue, eq_comm]
  case neg =>
    rw [iff_false_right (not_and_of_not_right _ noValue)]
    intro same
    have rows := whole.rows_addReturn noValue
    have length : (Text.rows (Script.addReturn d code)).length = (Text.rows code).length := by
      rw [Script.rows_addReturn, List.length_reverse, length_wrapBackward, List.length_reverse,
        code_solid.trimEnd]
    rw [same, rows_append_newline, List.append_assoc, last.apart] at rows
    obtain ⟨-, behind⟩ := List.append_inj rows length
    rw [List.append_cancel_left_eq] at behind
    exact returnedLine_ne noValue (List.cons.inj behind).1.symm

end Last

end Trailing

/-- What becomes of a fragment with blank lines and comments behind it. It is returned as it is by itself if
and only if all comments are seen, or nothing at all is returned. If a comment is not seen, a line of one
such comment is taken for the last one with code, and is returned if it has a value. -/
theorem addReturn_trailing {d : Dialect} {code : Text} {ts : List Trailer} (code_solid : Text.Solid code)
    (solid : Text.Solid (trailing ts)) :
  (addReturn d (code ++ '\n' :: trailing ts) = addReturn d code ++ '\n' :: trailing ts
      ↔ (∀ c, .comment c ∈ ts → c.IsSeen)
        ∨ addReturn d code = code ∧ ∃ before line after,
          LastCode (Text.rows (trailing ts)) before line after ∧ d.HasNoValue line)
    ∧ ((∃ c, .comment c ∈ ts ∧ ¬c.IsSeen) → ∃ c before line after, .comment c ∈ ts ∧ ¬c.IsSeen
      ∧ line ∈ Text.rows c.text ∧ LastCode (Text.rows (trailing ts)) before line after
      ∧ (¬d.HasNoValue line → Text.rows (addReturn d (code ++ '\n' :: trailing ts))
        = Text.rows code ++ before ++ returnedLine line :: after))
  := by
  have rows := rows_trailing solid
  constructor
  case left =>
    constructor
    case mp =>
      intro same
      by_cases unseen : ∃ c, .comment c ∈ ts ∧ ¬c.IsSeen
      · obtain ⟨c, before, line, after, -, -, -, last⟩ := exists_lastCode_trailers unseen
        rw [← rows] at last
        obtain ⟨kept, noValue⟩ := (last.addReturn_trailing_iff code_solid solid).mp same
        exact .inr ⟨kept, before, line, after, last, noValue⟩
      · push Not at unseen
        exact .inl unseen
    case mpr =>
      rintro (seen | ⟨kept, before, line, after, last, noValue⟩)
      · apply addReturn_of_skipped code_solid solid
        rw [rows]
        exact skipped_trailers seen
      · exact (last.addReturn_trailing_iff code_solid solid).mpr ⟨kept, noValue⟩
  case right =>
    intro unseen
    obtain ⟨c, before, line, after, stands, c_unseen, within, last⟩ := exists_lastCode_trailers unseen
    rw [← rows] at last
    exact ⟨c, before, line, after, stands, c_unseen, within, last,
      (last.behind solid code).rows_addReturn⟩

/-- A comment over four lines with a pattern of file names in its second line. -/
def globbing : BlockComment where
  indent := []
  content := "\n * src/*.js\n * return n;\n ".toList
  blanks := []
  indent_blank := rfl
  blanks_blank := rfl
  indent_inLine := List.not_mem_nil
  blanks_inLine := List.not_mem_nil
  closed := by decide +kernel

theorem addReturn_trailing_globbing :
  Text.Solid "let n = 1;\nn + 1".toList
    ∧ Text.Solid (trailing [.blank [] (by decide) rfl, .comment globbing]) ∧ globbing.IsSeen
    ∧ addReturn .plain ("let n = 1;\nn + 1".toList
        ++ '\n' :: trailing [.blank [] (by decide) rfl, .comment globbing])
      = "let n = 1;\nreturn n + 1\n\n/*\n * src/*.js\n * return n;\n */".toList
  := by
  have code_solid : Text.Solid "let n = 1;\nn + 1".toList := ⟨'1', by decide +kernel, by decide⟩
  have solid : Text.Solid (trailing [.blank [] (by decide) rfl, .comment globbing]) :=
    ⟨'/', by decide +kernel, by decide⟩
  have apart : Text.rows globbing.text = "/*".toList
      :: ([" * src/*.js".toList, " * return n;".toList] ++ [" */".toList]) := by decide +kernel
  have seen : globbing.IsSeen := by
    rw [BlockComment.isSeen_iff apart]
    refine .inr ⟨by decide +kernel, ?_⟩
    rintro before line after cut ⟨other, stands, opens⟩
    -- only the second line has an opening, and no line of the comment but the first is before it
    have tail : other ∈ [" * return n;".toList] := by
      cases before with
      | nil =>
          rw [(List.cons.inj cut).2]
          exact stands
      | cons _ before =>
          rw [(List.cons.inj cut).2]
          exact List.mem_append_right _ (List.mem_cons_of_mem _ stands)
    rw [List.mem_singleton.mp tail] at opens
    exact absurd opens (by decide +kernel)
  have all : ∀ c, .comment c ∈ [Trailer.blank [] (by decide) rfl, .comment globbing] → c.IsSeen := by
    intro c stands
    simp only [List.mem_cons, List.not_mem_nil, or_false, reduceCtorEq, false_or,
      Trailer.comment.injEq] at stands
    rwa [stands]
  refine ⟨code_solid, solid, seen, ?_⟩
  rw [(addReturn_trailing code_solid solid).1.mpr (.inl all)]
  decide +kernel

/-- A comment over four lines with a pattern of file names in its third line. -/
def pointing : BlockComment where
  indent := []
  content := "\n * see\n * src/*.js\n ".toList
  blanks := []
  indent_blank := rfl
  blanks_blank := rfl
  indent_inLine := List.not_mem_nil
  blanks_inLine := List.not_mem_nil
  closed := by decide +kernel

/-- Not every fragment is returned as it is by itself, not even if it is a single name. -/
theorem not_trailing_transparent :
  ¬∀ (d : Dialect) (code : Text) (ts : List Trailer), code ≠ [] → Text.IsWord code →
    Text.Solid (trailing ts) →
    addReturn d (code ++ '\n' :: trailing ts) = addReturn d code ++ '\n' :: trailing ts
  := by
  intro transparent
  have same := transparent .plain "x".toList [.comment pointing] (by decide) (by decide)
    ⟨'/', by decide +kernel, by decide⟩
  revert same
  decide +kernel

end Script

end NotebookEngine
