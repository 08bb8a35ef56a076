import Mathlib.Data.List.Induction
import NotebookEngine.Proofs.Script.Imports

/-!
# Imports that are separated twice

What is separated from rows does not depend on what was separated before them
(`Separation.foldl_next_behind`). So the import statements and the lines of the body among rows are the ones
that are separated from them (`separated_of_whole`), and a statement that is open takes the rows up to the
first that ends it (`foldl_next_taking`). The imports and the body of a fragment, one below the other, come
apart again into the same imports and the same body if and only if no statement is left open at the end of
the fragment (`extractImports_hoisted`).
-/

namespace NotebookEngine

namespace Script

/-! ### One more row -/

section

variable {line : Text} (imports body : List Text)

theorem next_ended (ends : endsImport (Text.trim line) = true) (statement : Text) :
  Separation.next ⟨imports, body, some statement⟩ line
    = ⟨(statement ++ '\n' :: line) :: imports, body, none⟩
  := by
  simp only [Separation.next, ends, ↓reduceIte]

theorem next_unended (unended : endsImport (Text.trim line) = false) (statement : Text) :
  Separation.next ⟨imports, body, some statement⟩ line
    = ⟨imports, body, some (statement ++ '\n' :: line)⟩
  := by
  simp only [Separation.next, unended, Bool.false_eq_true, ↓reduceIte]

theorem next_complete (begins : startsImport (Text.trim line) = true)
    (complete : isCompleteImport (Text.trim line) = true) :
  Separation.next ⟨imports, body, none⟩ line = ⟨line :: imports, body, none⟩
  := by
  simp only [Separation.next, begins, complete, ↓reduceIte]

theorem next_incomplete (begins : startsImport (Text.trim line) = true)
    (incomplete : isCompleteImport (Text.trim line) = false) :
  Separation.next ⟨imports, body, none⟩ line = ⟨imports, body, some line⟩
  := by
  simp only [Separation.next, begins, incomplete, Bool.false_eq_true, ↓reduceIte]

theorem next_plain (plain : startsImport (Text.trim line) = false) :
  Separation.next ⟨imports, body, none⟩ line = ⟨imports, line :: body, none⟩
  := by
  simp only [Separation.next, plain, Bool.false_eq_true, ↓reduceIte]

end

/-! ### One part after another -/

/-- What is separated from rows. -/
def separated (rows : List Text) : Separation :=
  rows.foldl Separation.next ⟨[], [], none⟩

theorem extractImports_eq (code : Text) :
  extractImports code = (separated (Text.rows code)).close
  := rfl

/-- What is separated, behind what was separated before. -/
def Separation.behind (s before : Separation) : Separation :=
  { s with imports := s.imports ++ before.imports, body := s.body ++ before.body }

theorem Separation.next_behind (s before : Separation) (line : Text) :
  (s.behind before).next line = (s.next line).behind before
  := by
  obtain ⟨imports, body, isOpen⟩ := s
  cases isOpen with
  | some statement =>
      simp only [next, behind]
      split <;> rfl
  | none =>
      simp only [next, behind]
      split
      · split <;> rfl
      · rfl

/-- What was separated before is left as it is. -/
theorem Separation.foldl_next_behind (s before : Separation) (rows : List Text) :
  rows.foldl next (s.behind before) = (rows.foldl next s).behind before
  := by
  induction rows generalizing s with
  | nil => rfl
  | cons line rows ih => rw [List.foldl_cons, List.foldl_cons, next_behind, ih]

theorem foldl_next_closed (imports body rows : List Text) :
  rows.foldl Separation.next ⟨imports, body, none⟩ = (separated rows).behind ⟨imports, body, none⟩
  := Separation.foldl_next_behind ⟨[], [], none⟩ ⟨imports, body, none⟩ rows

theorem Separation.imports_close_behind (s before : Separation) :
  (s.behind before).close.imports = before.imports.reverse ++ s.close.imports
  := by
  cases isOpen : s.open? with
  | some statement => simp [close, behind, isOpen]
  | none => simp [close, behind, isOpen]

/-- Imports that were separated before stand in front. -/
theorem Separation.close_behind (s : Separation) (imports : List Text) :
  (s.behind ⟨imports, [], none⟩).close = ⟨imports.reverse ++ s.close.imports, s.close.body⟩
  := by
  rw [← imports_close_behind s ⟨imports, [], none⟩]
  simp [close, behind]

/-- What is extracted from rows that are joined is what is separated from them. -/
theorem extractImports_join {ls : List Text} (whole : ∀ line ∈ ls, '\n' ∉ line) :
  extractImports (Text.join ['\n'] ls) = (separated ls).close
  := by
  by_cases none : ls = []
  · rw [none]
    rfl
  · rw [extractImports_eq, Text.rows, Text.pieces_join none whole]

/-! ### Statements that are open -/

/-- Rows that do not end a statement go on with it. -/
theorem foldl_next_unended {rows : List Text} (unended : ∀ row ∈ rows, endsImport (Text.trim row) = false)
    (imports body : List Text) (statement : Text) :
  rows.foldl Separation.next ⟨imports, body, some statement⟩
    = ⟨imports, body, some (Text.join ['\n'] (statement :: rows))⟩
  := by
  induction rows using List.reverseRecOn with
  | nil => rfl
  | append_singleton rows row ih =>
      rw [List.forall_mem_append, List.forall_mem_singleton] at unended
      rw [List.foldl_concat, ih unended.1, next_unended _ _ unended.2, join_concat]

/-- A statement takes the rows up to the first that ends it. -/
theorem foldl_next_taking {taken : List Text} {last : Text}
    (unended : ∀ row ∈ taken, endsImport (Text.trim row) = false)
    (ends : endsImport (Text.trim last) = true) (imports body left : List Text) (statement : Text) :
  (taken ++ last :: left).foldl Separation.next ⟨imports, body, some statement⟩
    = (separated left).behind
      ⟨Text.join ['\n'] (statement :: (taken ++ [last])) :: imports, body, none⟩
  := by
  rw [List.foldl_append, foldl_next_unended unended, List.foldl_cons, next_ended _ _ ends, join_concat,
    foldl_next_closed]

/-- If there are rows left, an open statement gets longer. -/
theorem exists_longer {rows : List Text} (some : rows ≠ []) (statement : Text) :
  ∃ more others, more ≠ []
    ∧ (rows.foldl Separation.next ⟨[], [], .some statement⟩).close.imports
      = (statement ++ more) :: others
  := by
  induction rows generalizing statement with
  | nil => contradiction
  | cons row rows ih =>
      rw [List.foldl_cons]
      cases ends : endsImport (Text.trim row) with
      | true =>
          refine ⟨'\n' :: row, (separated rows).close.imports, List.cons_ne_nil _ _, ?_⟩
          rw [next_ended _ _ ends, foldl_next_closed, Separation.imports_close_behind]
          rfl
      | false =>
          rw [next_unended _ _ ends]
          cases rows with
          | nil => exact ⟨'\n' :: row, [], List.cons_ne_nil _ _, rfl⟩
          | cons next rest =>
              obtain ⟨more, others, -, same⟩ :=
                ih (List.cons_ne_nil next rest) (statement ++ '\n' :: row)
              refine ⟨'\n' :: (row ++ more), others, List.cons_ne_nil _ _, ?_⟩
              rw [same, List.append_assoc, List.cons_append]

/-! ### Chunks -/

/-- The import statements and the lines of the body among chunks, as they are separated. -/
def Separation.ofChunks (chunks : List Chunk) : Separation :=
  ⟨((statements chunks).map (Text.join ['\n'])).reverse, (bodyLines chunks).reverse, none⟩

theorem IsOpened.separated {first : Text} {more : List Text} (opened : IsOpened first more) :
  separated (first :: more) = ⟨[], [], some (Text.join ['\n'] (first :: more))⟩
  := by
  rw [Script.separated, List.foldl_cons, next_incomplete _ _ opened.begins opened.incomplete,
    foldl_next_unended opened.unended]

theorem Chunk.IsWhole.separated {c : Chunk} (whole : c.IsWhole) :
  separated c.rows = Separation.ofChunks [c]
  := by
  cases whole with
  | short begins complete => exact next_complete _ _ begins complete
  | @long first last more opened ended =>
      have begun : (first :: more).foldl Separation.next ⟨[], [], none⟩ = _ := opened.separated
      rw [rows, ← List.cons_append, Script.separated, List.foldl_concat, begun, next_ended _ _ ended,
        ← join_concat]
      rfl
  | body plain => exact next_plain _ _ plain

/-- The statements and the lines that are separated from the rows of whole chunks are those of the chunks. -/
theorem separated_of_whole {chunks : List Chunk} (whole : ∀ c ∈ chunks, c.IsWhole) (rows : List Text) :
  separated (chunks.flatMap Chunk.rows ++ rows)
    = (separated rows).behind (Separation.ofChunks chunks)
  := by
  induction chunks with
  | nil =>
      simp [Separation.behind, Separation.ofChunks, statements, bodyLines]
  | cons c chunks ih =>
      rw [List.forall_mem_cons] at whole
      have first : c.rows.foldl Separation.next ⟨[], [], none⟩ = Separation.ofChunks [c] :=
        whole.1.separated
      rw [List.flatMap_cons, List.append_assoc, separated, List.foldl_append, first,
        Separation.ofChunks, foldl_next_closed, ih whole.2]
      cases c <;> simp [Separation.behind, Separation.ofChunks, statements, bodyLines]

theorem extractImports_of_whole {code : Text} {chunks : List Chunk} (whole : ∀ c ∈ chunks, c.IsWhole)
    (rows_eq : Text.rows code = chunks.flatMap Chunk.rows) :
  extractImports code
    = ⟨(statements chunks).map (Text.join ['\n']), Text.join ['\n'] (bodyLines chunks)⟩
  := by
  have all := separated_of_whole whole []
  rw [List.append_nil, ← rows_eq] at all
  rw [extractImports_eq, all]
  simp [separated, Separation.behind, Separation.ofChunks, Separation.close]

/-- Every fragment is whole chunks, and perhaps a statement behind them that is not ended. -/
theorem exists_chunks (code : Text) :
  ∃ (chunks : List Chunk) (begun : Option (Text × List Text)), (∀ c ∈ chunks, c.IsWhole)
    ∧ (∀ o ∈ begun, IsOpened o.1 o.2) ∧ Text.rows code = chunks.flatMap Chunk.rows ++ openRows begun
  := by
  obtain ⟨chunks, begun, covers, rows⟩ := Separation.Covers.start.foldl (Text.rows code)
  exact ⟨chunks, begun, covers.whole, covers.opened, rows.symm⟩

theorem extractImports_of_opened {code first : Text} {chunks : List Chunk} {more : List Text}
    (whole : ∀ c ∈ chunks, c.IsWhole) (opened : IsOpened first more)
    (rows_eq : Text.rows code = chunks.flatMap Chunk.rows ++ first :: more) :
  extractImports code
    = ⟨(statements chunks ++ [first :: more]).map (Text.join ['\n']),
      Text.join ['\n'] (bodyLines chunks)⟩
  := by
  rw [extractImports_eq, rows_eq, separated_of_whole whole, opened.separated]
  simp [Separation.behind, Separation.ofChunks, Separation.close]

/-! ### Separated again -/

/-- No import statement is left open at the end of the fragment: it is import statements, each up to the
first line that ends it, and lines of the body. -/
def Closed (code : Text) : Prop :=
  ∃ chunks : List Chunk, (∀ c ∈ chunks, c.IsWhole) ∧ Text.rows code = chunks.flatMap Chunk.rows

theorem closed_iff {code : Text} :
  Closed code ↔ (separated (Text.rows code)).open? = none
  := by
  constructor
  · rintro ⟨chunks, whole, rows_eq⟩
    rw [rows_eq, ← List.append_nil (chunks.flatMap Chunk.rows), separated_of_whole whole]
    rfl
  · intro isOpen
    obtain ⟨chunks, begun, whole, opened, rows_eq⟩ := exists_chunks code
    cases begun with
    | none => exact ⟨chunks, whole, by rw [rows_eq, openRows, List.append_nil]⟩
    | some o =>
        rw [rows_eq, separated_of_whole whole, openRows, (opened o rfl).separated] at isOpen
        exact absurd isOpen (Option.some_ne_none _)

/-- The imports of a fragment, and its body below them. -/
def Extracted.hoisted (e : Extracted) : Text :=
  Text.join ['\n'] (e.imports ++ [e.body])

/-- The rows of imports, each given by its own rows, and of a body below them. -/
theorem rows_hoisted {parts : List (List Text)} (some : ∀ ls ∈ parts, ls ≠ [])
    (whole : ∀ line ∈ parts.flatten, '\n' ∉ line) (body : Text) :
  Text.rows (Extracted.hoisted ⟨parts.map (Text.join ['\n']), body⟩)
    = parts.flatten ++ Text.rows body
  := by
  have apart : (parts.map (Text.join ['\n'])).flatMap Text.rows = parts.flatten := by
    rw [List.flatMap_map, List.flatten_eq_flatMap]
    apply List.flatMap_congr
    intro ls stands
    apply Text.pieces_join (some ls stands)
    intro line h
    exact whole line (List.mem_flatten_of_mem stands h)
  rw [Extracted.hoisted, Text.rows_join (by simp), List.flatMap_append, apart, List.flatMap_singleton]

/-- The chunk is an import statement. -/
def Chunk.isStatement : Chunk → Bool
  | .statement _ _ => true
  | .body _ => false

/-- The import statements among chunks, and below them the lines of a body. -/
def hoistedChunks (chunks : List Chunk) (lines : List Text) : List Chunk :=
  chunks.filter Chunk.isStatement ++ lines.map Chunk.body

theorem rows_hoistedChunks (chunks : List Chunk) (lines : List Text) :
  (hoistedChunks chunks lines).flatMap Chunk.rows = (statements chunks).flatten ++ lines
  := by
  have plain : (lines.map Chunk.body).flatMap Chunk.rows = lines := by
    rw [List.flatMap_map]
    exact List.flatMap_singleton' lines
  rw [hoistedChunks, List.flatMap_append, plain]
  congr 1
  induction chunks with
  | nil => rfl
  | cons c chunks ih => cases c <;> simp [List.filter_cons, Chunk.isStatement, Chunk.rows, statements, ih]

theorem statements_hoistedChunks (chunks : List Chunk) (lines : List Text) :
  statements (hoistedChunks chunks lines) = statements chunks
  := by
  have plain : statements (lines.map Chunk.body) = [] := by
    induction lines with
    | nil => rfl
    | cons line lines ih => simpa [statements] using ih
  rw [hoistedChunks, statements_append, plain, List.append_nil]
  induction chunks with
  | nil => rfl
  | cons c chunks ih => cases c <;> simp [List.filter_cons, Chunk.isStatement, statements, ih]

theorem bodyLines_hoistedChunks (chunks : List Chunk) (lines : List Text) :
  bodyLines (hoistedChunks chunks lines) = lines
  := by
  have none : bodyLines (chunks.filter Chunk.isStatement) = [] := by
    induction chunks with
    | nil => rfl
    | cons c chunks ih => cases c <;> simp [List.filter_cons, Chunk.isStatement, bodyLines, ih]
  rw [hoistedChunks, bodyLines_append, none, List.nil_append]
  induction lines with
  | nil => rfl
  | cons line lines ih => simp [bodyLines, ih]

theorem whole_hoistedChunks {chunks : List Chunk} (whole : ∀ c ∈ chunks, c.IsWhole) {lines : List Text}
    (plain : ∀ line ∈ lines, startsImport (Text.trim line) = false) :
  ∀ c ∈ hoistedChunks chunks lines, c.IsWhole
  := by
  rw [hoistedChunks, List.forall_mem_append]
  constructor
  · intro c stands
    exact whole c (List.mem_of_mem_filter stands)
  · rw [List.forall_mem_map]
    intro line stands
    exact .body (plain line stands)

theorem plain_of_mem_bodyLines {chunks : List Chunk} (begins : ∀ c ∈ chunks, c.Begins) :
  ∀ line ∈ bodyLines chunks, startsImport (Text.trim line) = false
  := by
  induction chunks with
  | nil => exact List.forall_mem_nil _
  | cons c chunks ih =>
      rw [List.forall_mem_cons] at begins
      cases c with
      | statement _ _ => exact ih begins.2
      | body line =>
          rw [bodyLines, List.forall_mem_cons]
          exact ⟨begins.1, ih begins.2⟩

/-- No line of a body begins an import. -/
theorem plain_body (code : Text) :
  ∀ row ∈ Text.rows (extractImports code).body, startsImport (Text.trim row) = false
  := by
  obtain ⟨chunks, extracted⟩ := exists_extracted_from code
  rw [extracted.body_eq]
  by_cases none : bodyLines chunks = []
  · rw [none]
    decide
  · rw [Text.rows, Text.pieces_join none fun line h => extracted.newline_notMem (mem_rows_of_mem_bodyLines h)]
    exact plain_of_mem_bodyLines extracted.begins

theorem extractImports_body (code : Text) :
  extractImports (extractImports code).body = ⟨[], (extractImports code).body⟩
  := by
  have whole : ∀ c ∈ hoistedChunks [] (Text.rows (extractImports code).body), c.IsWhole :=
    whole_hoistedChunks (List.forall_mem_nil _) (plain_body code)
  have rows_eq := rows_hoistedChunks [] (Text.rows (extractImports code).body)
  rw [extractImports_of_whole whole rows_eq.symm, statements_hoistedChunks, bodyLines_hoistedChunks,
    Text.rows, Text.join_pieces]
  rfl

/-- The rows of what is hoisted, if the import statements are those of chunks. -/
theorem rows_hoisted_extractImports {code : Text} (parts : List (List Text))
    (some : ∀ ls ∈ parts, ls ≠ [])
    (rows : ∀ line ∈ parts.flatten, line ∈ Text.rows code)
    (imports_eq : (extractImports code).imports = parts.map (Text.join ['\n'])) :
  Text.rows (extractImports code).hoisted
    = parts.flatten ++ Text.rows (extractImports code).body
  := by
  have same : extractImports code = ⟨parts.map (Text.join ['\n']), (extractImports code).body⟩ := by
    rw [← imports_eq]
  rw [same]
  exact rows_hoisted some (fun line stands => Text.notMem_of_mem_pieces (rows line stands)) _

theorem extractImports_hoisted_of_closed {code : Text} (closed : Closed code) :
  extractImports (extractImports code).hoisted = extractImports code
  := by
  obtain ⟨chunks, whole, rows_eq⟩ := closed
  have extracted := extractImports_of_whole whole rows_eq
  have rows_kept := rows_hoistedChunks chunks (Text.rows (extractImports code).body)
  have rows_hoisted : Text.rows (extractImports code).hoisted
      = (statements chunks).flatten ++ Text.rows (extractImports code).body := by
    apply rows_hoisted_extractImports _ (statements_ne_nil chunks)
    · intro line stands
      rw [rows_eq]
      exact mem_rows_of_mem_statements stands
    · rw [extracted]
  rw [extractImports_of_whole (whole_hoistedChunks whole (plain_body code)) (rows_hoisted.trans rows_kept.symm),
    statements_hoistedChunks, bodyLines_hoistedChunks, Text.rows, Text.join_pieces, extracted]

/-- A statement that is open at the end of the fragment stands in front of the body when it is hoisted. -/
theorem rows_hoisted_of_opened {code first : Text} {chunks : List Chunk} {more : List Text}
    (whole : ∀ c ∈ chunks, c.IsWhole) (opened : IsOpened first more)
    (rows_eq : Text.rows code = chunks.flatMap Chunk.rows ++ first :: more) :
  Text.rows (extractImports code).hoisted
    = (hoistedChunks chunks []).flatMap Chunk.rows
      ++ (first :: more ++ Text.rows (extractImports code).body)
  := by
  rw [rows_hoisted_extractImports (statements chunks ++ [first :: more]), rows_hoistedChunks]
  · simp
  · rw [List.forall_mem_append, List.forall_mem_singleton]
    exact ⟨statements_ne_nil chunks, List.cons_ne_nil _ _⟩
  · intro line stands
    rw [rows_eq, List.mem_append]
    rw [List.flatten_append, List.flatten_singleton, List.mem_append] at stands
    exact stands.imp mem_rows_of_mem_statements id
  · rw [extractImports_of_opened whole opened rows_eq]

/-- A statement that is open at the end of the fragment takes lines of the body when it is hoisted. -/
theorem imports_hoisted_of_opened {code : Text} (opened : ¬Closed code) :
  (extractImports (extractImports code).hoisted).imports ≠ (extractImports code).imports
  := by
  obtain ⟨chunks, begun, whole, covers, rows_eq⟩ := exists_chunks code
  cases begun with
  | none =>
      rw [openRows, List.append_nil] at rows_eq
      exact absurd ⟨chunks, whole, rows_eq⟩ opened
  | some o =>
      obtain ⟨first, more⟩ := o
      have isOpened : IsOpened first more := covers _ rfl
      have begun : (first :: more).foldl Separation.next ⟨[], [], none⟩ = _ := isOpened.separated
      have kept : ∀ c ∈ hoistedChunks chunks [], c.IsWhole :=
        whole_hoistedChunks whole (List.forall_mem_nil _)
      obtain ⟨longer, others, some, taken⟩ :=
        exists_longer (Text.pieces_ne_nil '\n' (extractImports code).body) (Text.join ['\n'] (first :: more))
      rw [extractImports_eq (Extracted.hoisted _), rows_hoisted_of_opened whole isOpened rows_eq,
        separated_of_whole kept, Separation.imports_close_behind, separated, List.foldl_append, begun,
        Text.rows, taken, extractImports_of_opened whole isOpened rows_eq]
      simp [Separation.ofChunks, statements_hoistedChunks, some]

/-- Imports that are hoisted stay where they are, if no statement is open at the end of the fragment, and a
body has no imports. -/
theorem extractImports_hoisted (code : Text) :
  (extractImports (extractImports code).hoisted = extractImports code ↔ Closed code)
    ∧ extractImports (extractImports code).body = ⟨[], (extractImports code).body⟩
  := by
  refine ⟨⟨?_, extractImports_hoisted_of_closed⟩, extractImports_body code⟩
  intro stable
  by_contra opened
  exact imports_hoisted_of_opened opened (by rw [stable])

end Script

end NotebookEngine
