import NotebookEngine.Proofs.Script.Separation
import NotebookEngine.Proofs.Text.Occurrences

/-!
# Imports on one line

An import of a module on a line of its own (`ImportLine`) is taken for a whole statement if and only if the
name of the module does not hold `from`, since the quoted name is looked for behind the last `from` of the
line (`ImportLine.isComplete_iff`). So it is hoisted alone if and only if that is so, and else it takes the
lines that follow, up to the first that ends an import (`ImportLine.hoistedAlone_iff`).
-/

namespace NotebookEngine

namespace Script

/-! ### Quoted names -/

theorem isQuote_iff {c : Char} :
  isQuote c = true ↔ c = '\'' ∨ c = '"'
  := by
  rw [isQuote, Bool.or_eq_true, decide_eq_true_eq, decide_eq_true_eq]

theorem isBlank_of_isQuote {c : Char} (quote : isQuote c = true) :
  Text.isBlank c = false
  := by
  rcases isQuote_iff.mp quote with rfl | rfl <;> decide

theorem isQuoted_of_quote {mark : Char} {s : Text} (quote : isQuote mark = true)
    (bare : ∀ c ∈ s, isQuote c = false) :
  isQuoted (mark :: (s ++ [mark])) = true
  := by
  have none : s.any isQuote = false := by simpa using bare
  rw [isQuoted, List.getLast?_concat, List.dropLast_concat, none]
  simp only [quote, decide_true, Bool.not_false, Bool.and_true]

theorem isQuoted_of_not_quote {c : Char} (s : Text) (other : isQuote c = false) :
  isQuoted (c :: s) = false
  := by
  rw [isQuoted]
  split
  · rfl
  · rw [other, Bool.false_and, Bool.false_and]

/-- A text does not stand between quotes if something else than a quote stands in front. -/
theorem isQuoted_trim_append {s : Text} (bare : ∀ c ∈ s, isQuote c = false)
    (some : Text.isBlankText s = false) (t : Text) :
  isQuoted (Text.trim (s ++ t)) = false
  := by
  obtain ⟨c, stands, rest, same⟩ := Text.exists_trim_append some t
  rw [same, isQuoted_of_not_quote rest (bare c stands)]

/-- One quote does not open and close. -/
theorem isQuoted_trim_append_quote {mark : Char} {s : Text} (quote : isQuote mark = true)
    (bare : ∀ c ∈ s, isQuote c = false) :
  isQuoted (Text.trim (s ++ [mark])) = false
  := by
  cases some : Text.isBlankText s with
  | true =>
      rw [Text.trim_blank_append some]
      rcases isQuote_iff.mp quote with rfl | rfl <;> decide
  | false => exact isQuoted_trim_append bare some [mark]

/-! ### Imports on one line -/

/-- A text without quotes, and without what ends a statement or a line. -/
def IsPlain (s : Text) : Prop :=
  ∀ c ∈ s, isQuote c = false ∧ c ≠ ';' ∧ c ≠ '\n'

instance (s : Text) : Decidable (IsPlain s) :=
  List.decidableBAll _ s

theorem isPlain_import :
  IsPlain "import ".toList
  := by decide

theorem isPlain_from :
  IsPlain "from".toList
  := by decide

/-- An import of what a clause binds, from the module with a name, on a line of its own. -/
structure ImportLine where
  indent : Text
  clause : Text
  gap : Text
  mark : Char
  source : Text
  blanks : Text
  indent_blank : ∀ c ∈ indent, Text.isBlank c = true ∧ c ≠ '\n'
  clause_plain : IsPlain clause
  gap_blank : ∀ c ∈ gap, c = ' ' ∨ c = '\t'
  mark_quote : isQuote mark = true
  source_plain : IsPlain source
  blanks_blank : ∀ c ∈ blanks, Text.isBlank c = true ∧ c ≠ '\n'

namespace ImportLine

variable (l : ImportLine)

/-- The name of the module, with its quotes. -/
def quoted : Text :=
  l.mark :: (l.source ++ [l.mark])

/-- The statement of an import, without the blanks around it. -/
def statement : Text :=
  "import ".toList ++ l.clause ++ ("from".toList ++ (l.gap ++ l.quoted))

/-- The line of an import. -/
def text : Text :=
  l.indent ++ l.statement ++ l.blanks

-- Stated for rewriting: the literal in front makes the equations that Lean derives slow.
theorem statement_eq :
  l.statement = "import ".toList ++ l.clause ++ ("from".toList ++ (l.gap ++ l.quoted))
  := rfl

theorem isBlankText_indent :
  Text.isBlankText l.indent = true
  := List.all_eq_true.mpr fun c stands => (l.indent_blank c stands).1

theorem isBlankText_blanks :
  Text.isBlankText l.blanks = true
  := List.all_eq_true.mpr fun c stands => (l.blanks_blank c stands).1

theorem isBlankText_gap :
  Text.isBlankText l.gap = true
  := by
  rw [Text.isBlankText, List.all_eq_true]
  intro c stands
  rcases l.gap_blank c stands with rfl | rfl <;> decide

theorem forall_mem_quoted :
  ∀ c ∈ l.quoted, c ≠ ';' ∧ c ≠ '\n'
  := by
  have marked : l.mark ≠ ';' ∧ l.mark ≠ '\n' := by
    rcases isQuote_iff.mp l.mark_quote with same | same <;> rw [same] <;> decide
  rw [quoted, List.forall_mem_cons, List.forall_mem_append, List.forall_mem_singleton]
  exact ⟨marked, fun c stands => (l.source_plain c stands).2, marked⟩

/-- Nothing in the statement ends a statement or a line. -/
theorem forall_mem_statement :
  ∀ c ∈ l.statement, c ≠ ';' ∧ c ≠ '\n'
  := by
  have apart : ∀ c ∈ l.gap, c ≠ ';' ∧ c ≠ '\n' := by
    intro c stands
    rcases l.gap_blank c stands with rfl | rfl <;> decide
  rw [statement_eq, List.forall_mem_append, List.forall_mem_append, List.forall_mem_append,
    List.forall_mem_append]
  exact ⟨⟨fun c stands => (isPlain_import c stands).2, fun c stands => (l.clause_plain c stands).2⟩,
    fun c stands => (isPlain_from c stands).2, apart, l.forall_mem_quoted⟩

theorem newline_notMem_text :
  '\n' ∉ l.text
  := by
  rw [text, List.mem_append, List.mem_append]
  rintro ((stands | stands) | stands)
  · exact (l.indent_blank _ stands).2 rfl
  · exact (l.forall_mem_statement _ stands).2 rfl
  · exact (l.blanks_blank _ stands).2 rfl

theorem solid_quoted :
  Text.Solid l.quoted
  := ⟨l.mark, List.getLast?_concat (l := l.mark :: l.source), isBlank_of_isQuote l.mark_quote⟩

theorem trim_quoted :
  Text.trim l.quoted = l.quoted
  := by
  have begins : Text.trimStart l.quoted = l.quoted := by
    rw [Text.trimStart, quoted, List.dropWhile_cons_of_neg]
    rw [isBlank_of_isQuote l.mark_quote]
    exact Bool.false_ne_true
  rw [Text.trim, begins, l.solid_quoted.trimEnd]

theorem trim_text :
  Text.trim l.text = l.statement
  := by
  have word : "import ".toList = 'i' :: "mport ".toList := by decide
  have begins : Text.trimStart l.statement = l.statement := by
    rw [statement_eq, word]
    rfl
  have ends : Text.trimEnd l.statement = l.statement := by
    rw [statement_eq, ← List.append_assoc, ← List.append_assoc]
    exact (l.solid_quoted.append _).trimEnd
  rw [text, Text.trim_append_blank _ l.isBlankText_blanks, Text.trim_blank_append l.isBlankText_indent,
    Text.trim, begins, ends]

theorem startsImport_statement :
  startsImport l.statement = true
  := by
  rw [startsImport, Text.startsWith_iff, statement_eq, List.append_assoc]
  exact List.prefix_append _ _

/-- What follows `import` is no quoted name. -/
theorem isQuoted_clause :
  isQuoted (Text.trim (l.statement.drop "import".length)) = false
  := by
  have bare : ∀ c ∈ [' '] ++ l.clause ++ "from".toList, isQuote c = false := by
    rw [List.forall_mem_append, List.forall_mem_append]
    refine ⟨⟨?_, fun c stands => (l.clause_plain c stands).1⟩, fun c stands => (isPlain_from c stands).1⟩
    rw [List.forall_mem_singleton]
    decide
  have some : Text.isBlankText ([' '] ++ l.clause ++ "from".toList) = false := by
    have word : Text.isBlankText "from".toList = false := by decide
    rw [Text.isBlankText_append, word, Bool.and_false]
  have apart : l.statement.drop "import".length
      = [' '] ++ l.clause ++ "from".toList ++ (l.gap ++ l.quoted) := by
    have word : "import ".toList = "import".toList ++ [' '] := by decide
    have length : "import".length = "import".toList.length := by decide
    rw [statement_eq, word, length, List.append_assoc, List.append_assoc, List.drop_left]
    simp only [List.append_assoc]
  rw [apart]
  exact isQuoted_trim_append bare some _

theorem mark_notMem_from :
  l.mark ∉ "from".toList
  := by
  intro stands
  have bare := (isPlain_from l.mark stands).1
  rw [l.mark_quote] at bare
  contradiction

/-- Behind the last `from` of the name, only one quote is left. -/
theorem afterLast?_of_isInfix (holds : "from".toList <:+: l.source) :
  ∃ tail, (∀ c ∈ tail, isQuote c = false)
    ∧ Text.afterLast? "from".toList l.statement = some (tail ++ [l.mark])
  := by
  have occurs : "from".toList <:+: l.source ++ [l.mark] :=
    (Text.isInfix_append_cons_iff l.mark_notMem_from).mpr (.inl holds)
  cases found : Text.afterLast? "from".toList (l.source ++ [l.mark]) with
  | none => exact absurd occurs (Text.afterLast?_eq_none_iff.mp found)
  | some behind =>
      obtain ⟨before, apart⟩ := Text.afterLast?_eq_some found
      rcases List.eq_nil_or_concat' behind with rfl | ⟨tail, last, rfl⟩
      · -- The quote would be the last letter of `from`.
        have front : [l.mark] <:+ l.source ++ [l.mark] := List.suffix_append _ _
        have back : "from".toList <:+ l.source ++ [l.mark] := by
          rw [apart, List.append_nil]
          exact List.suffix_append _ _
        have ends := List.suffix_of_suffix_length_le front back (by rw [List.length_singleton]; decide)
        exact absurd (ends.subset (List.mem_singleton_self _)) l.mark_notMem_from
      · rw [← List.append_assoc, ← List.append_assoc] at apart
        obtain ⟨name, same⟩ := List.append_inj' apart rfl
        obtain rfl := List.singleton_inj.mp same
        refine ⟨tail, ?_, ?_⟩
        · intro c stands
          apply (l.source_plain c _).1
          rw [name]
          exact List.mem_append_right _ stands
        · have whole : l.statement
              = ("import ".toList ++ l.clause ++ ("from".toList ++ (l.gap ++ [l.mark])))
                ++ (l.source ++ [l.mark]) := by
            rw [statement_eq, quoted]
            simp only [List.append_assoc, List.singleton_append]
          rw [whole]
          exact Text.afterLast?_append found _

/-- The last `from` of the statement stands between the clause and the name, if the name holds none. -/
theorem afterLast?_of_not_isInfix (absent : ¬"from".toList <:+: l.source) :
  Text.afterLast? "from".toList l.statement = some (l.gap ++ l.quoted)
  := by
  have word : "from".toList = 'f' :: "rom".toList := by decide
  rw [statement_eq, word]
  apply Text.afterLast?_of_last
  rw [← word, quoted, ← List.append_assoc, Text.isInfix_append_cons_iff l.mark_notMem_from,
    Text.isInfix_append_cons_iff l.mark_notMem_from, List.infix_nil]
  rintro (inFront | inName | none)
  · have stands : 'f' ∈ "rom".toList ++ l.gap := inFront.subset (by decide)
    rcases List.mem_append.mp stands with letter | blank
    · revert letter
      decide
    · rcases l.gap_blank _ blank with same | same <;> contradiction
  · exact absent inName
  · revert none
    decide

/-- An import on one line is taken for a whole statement if and only if the name does not hold `from`. -/
theorem isComplete_iff :
  isCompleteImport l.statement = true ↔ ¬"from".toList <:+: l.source
  := by
  have noEnd : l.statement.contains ';' = false := by
    rw [List.contains_eq_mem, decide_eq_false_iff_not]
    exact fun stands => (l.forall_mem_statement _ stands).1 rfl
  rw [isCompleteImport, noEnd, l.isQuoted_clause, Bool.false_or, Bool.false_or]
  by_cases holds : "from".toList <:+: l.source
  · obtain ⟨tail, bare, found⟩ := l.afterLast?_of_isInfix holds
    simp only [found, isQuoted_trim_append_quote l.mark_quote bare, Bool.and_false, Bool.false_eq_true,
      holds, not_true]
  · have begins : startsModuleName (l.gap ++ l.quoted) = true := by
      cases gap : l.gap with
      | nil => simp only [quoted, List.nil_append, startsModuleName, l.mark_quote, Bool.or_true]
      | cons c gap =>
          have first := l.gap_blank c (by rw [gap]; exact List.mem_cons_self)
          rcases first with rfl | rfl <;> rfl
    have named : isQuoted (Text.trim (l.gap ++ l.quoted)) = true := by
      rw [Text.trim_blank_append l.isBlankText_gap, trim_quoted]
      exact isQuoted_of_quote l.mark_quote fun c stands => (l.source_plain c stands).1
    simp only [l.afterLast?_of_not_isInfix holds, begins, named, Bool.and_true, holds, not_false_eq_true]

theorem rows_text_append (rest : Text) :
  Text.rows (l.text ++ '\n' :: rest) = l.text :: Text.rows rest
  := by
  rw [Text.rows, Text.pieces_append, Text.pieces_of_notMem l.newline_notMem_text]
  rfl

theorem startsImport_trim_text :
  startsImport (Text.trim l.text) = true
  := by
  rw [trim_text, startsImport_statement]

/-- The import is a statement of its own in front of a text. -/
def HoistedAlone (rest : Text) : Prop :=
  extractImports (l.text ++ '\n' :: rest)
    = ⟨l.text :: (extractImports rest).imports, (extractImports rest).body⟩

instance (rest : Text) : Decidable (l.HoistedAlone rest) :=
  inferInstanceAs (Decidable (_ = _))

theorem hoistedAlone_of_complete (complete : isCompleteImport l.statement = true) (rest : Text) :
  l.HoistedAlone rest
  := by
  rw [← trim_text] at complete
  rw [HoistedAlone, extractImports_eq, rows_text_append, separated, List.foldl_cons,
    next_complete _ _ l.startsImport_trim_text complete, foldl_next_closed, Separation.close_behind]
  rfl

/-- If the line is not taken for a whole statement, the statement goes on with the rows behind it. -/
theorem extractImports_of_incomplete (incomplete : isCompleteImport l.statement = false) (rest : Text) :
  extractImports (l.text ++ '\n' :: rest)
    = ((Text.rows rest).foldl Separation.next ⟨[], [], some l.text⟩).close
  := by
  rw [← trim_text] at incomplete
  rw [extractImports_eq, rows_text_append, separated, List.foldl_cons,
    next_incomplete _ _ l.startsImport_trim_text incomplete]

theorem not_hoistedAlone_of_incomplete (incomplete : isCompleteImport l.statement = false) (rest : Text) :
  ¬l.HoistedAlone rest
  := by
  intro alone
  obtain ⟨more, others, some, longer⟩ := exists_longer (Text.pieces_ne_nil '\n' rest) l.text
  rw [HoistedAlone, l.extractImports_of_incomplete incomplete] at alone
  have imports := congrArg Extracted.imports alone
  rw [Text.rows, longer] at imports
  exact some (List.append_right_eq_self.mp (List.cons.inj imports).1)

end ImportLine

/-! ### Rows that are taken -/

/-- The row ends an import that was begun above it. -/
def EndsImport (row : Text) : Prop :=
  ';' ∈ row ∨ '\x7d' ∈ row ∧ "from".toList <:+: row

instance (row : Text) : Decidable (EndsImport row) :=
  inferInstanceAs (Decidable (_ ∨ _))

theorem endsImport_trim_iff (row : Text) :
  endsImport (Text.trim row) = true ↔ EndsImport row
  := by
  have word : "from".toList <:+: Text.trim row ↔ "from".toList <:+: row :=
    Text.isInfix_trim_iff (by decide) (by decide)
  rw [endsImport, Bool.or_eq_true, Bool.and_eq_true, List.contains_iff_mem, List.contains_iff_mem,
    Text.occurs_iff, word, Text.mem_trim_iff (by decide), Text.mem_trim_iff (by decide), EndsImport]

/-- An import of a module on one line is hoisted alone if and only if the name of the module does not hold
`from`. Else it takes the rows up to the first that ends an import, and all if there is none. -/
theorem ImportLine.hoistedAlone_iff (l : ImportLine) (rest : Text) :
  (l.HoistedAlone rest ↔ ¬"from".toList <:+: l.source)
    ∧ ("from".toList <:+: l.source →
      (∀ taken last left, Text.rows rest = taken ++ last :: left → (∀ row ∈ taken, ¬EndsImport row) →
        EndsImport last →
        extractImports (l.text ++ '\n' :: rest)
          = ⟨Text.join ['\n'] (l.text :: (taken ++ [last]))
              :: (extractImports (Text.join ['\n'] left)).imports,
            (extractImports (Text.join ['\n'] left)).body⟩)
      ∧ ((∀ row ∈ Text.rows rest, ¬EndsImport row) →
        extractImports (l.text ++ '\n' :: rest) = ⟨[l.text ++ '\n' :: rest], []⟩))
  := by
  have unended {rows : List Text} (none : ∀ row ∈ rows, ¬EndsImport row) :
      ∀ row ∈ rows, endsImport (Text.trim row) = false := by
    intro row stands
    rw [← Bool.not_eq_true, endsImport_trim_iff]
    exact none row stands
  refine ⟨⟨?_, fun absent => l.hoistedAlone_of_complete (l.isComplete_iff.mpr absent) rest⟩, fun holds => ?_⟩
  · intro alone
    rw [← isComplete_iff, ← Bool.not_eq_false]
    exact fun incomplete => l.not_hoistedAlone_of_incomplete incomplete rest alone
  · have incomplete : isCompleteImport l.statement = false := by
      rw [← Bool.not_eq_true, isComplete_iff, not_not]
      exact holds
    rw [l.extractImports_of_incomplete incomplete]
    constructor
    · intro taken last left apart others ends
      have whole : ∀ line ∈ left, '\n' ∉ line := by
        intro line stands
        apply Text.notMem_of_mem_pieces (s := rest)
        rw [← Text.rows, apart]
        exact List.mem_append_right _ (List.mem_cons_of_mem _ stands)
      rw [apart, foldl_next_taking (unended others) ((endsImport_trim_iff last).mpr ends),
        Separation.close_behind, extractImports_join whole]
      rfl
    · intro others
      have all : Text.join ['\n'] (l.text :: Text.rows rest) = l.text ++ '\n' :: rest := by
        rw [← rows_text_append, Text.rows, Text.join_pieces]
      rw [foldl_next_unended (unended others), all]
      rfl

/-- An import of which the name of the module holds `from`. -/
def ImportLine.rowsFromTable : ImportLine where
  indent := []
  clause := "rows ".toList
  gap := [' ']
  mark := '\''
  source := "./rows-from-table".toList
  blanks := []
  indent_blank := List.forall_mem_nil _
  clause_plain := by decide
  gap_blank := by simp
  mark_quote := by decide
  source_plain := by decide
  blanks_blank := List.forall_mem_nil _

theorem ImportLine.hoistedAlone_iff_rowsFromTable :
  extractImports "import rows from './rows-from-table'\nlet n = rows.length;\nn".toList
    = ⟨["import rows from './rows-from-table'\nlet n = rows.length;".toList], "n".toList⟩
  := by
  have taken := ((rowsFromTable.hoistedAlone_iff "let n = rows.length;\nn".toList).2 (by decide)).1
    [] "let n = rows.length;".toList ["n".toList] (by decide) (List.forall_mem_nil _) (by decide)
  have whole : rowsFromTable.text ++ '\n' :: "let n = rows.length;\nn".toList
      = "import rows from './rows-from-table'\nlet n = rows.length;\nn".toList := by
    decide +kernel
  have body : extractImports (Text.join ['\n'] ["n".toList]) = ⟨[], "n".toList⟩ := by decide
  have statement : Text.join ['\n'] (rowsFromTable.text :: ([] ++ ["let n = rows.length;".toList]))
      = "import rows from './rows-from-table'\nlet n = rows.length;".toList := by
    decide +kernel
  rwa [whole, body, statement] at taken

theorem not_hoistedAlone :
  ¬∀ (l : ImportLine) (rest : Text), l.HoistedAlone rest
  := by
  intro all
  have alone := all .rowsFromTable "let n = rows.length;\nn".toList
  revert alone
  decide +kernel

end Script

end NotebookEngine
