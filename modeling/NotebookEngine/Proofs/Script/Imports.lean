import NotebookEngine.Proofs.Text.Rows
import NotebookEngine.Script.Imports

/-!
# Imports and body of a script

The rows of a fragment are a sequence of import statements and lines of the body (`Chunk`). What has
been separated after some lines covers these lines (`Separation.Covers`), and one more line either
is a chunk, or goes on with the statement that is open (`Separation.Covers.next`). So the import
statements and the body that are extracted hold every row of the fragment once
(`exists_extracted_from`).
-/

namespace NotebookEngine

namespace Script

/-! ### Chunks -/

/-- Rows of a fragment that stay together: an import statement, or a line of the body. -/
inductive Chunk where
  | statement (first : Text) (more : List Text)
  | body (line : Text)
deriving DecidableEq, Repr

/-- The rows of a chunk. -/
def Chunk.rows : Chunk → List Text
  | .statement first more => first :: more
  | .body line => [line]

/-- The import statements among chunks, each by its rows. -/
def statements : List Chunk → List (List Text)
  | [] => []
  | .statement first more :: chunks => (first :: more) :: statements chunks
  | .body _ :: chunks => statements chunks

/-- The lines of the body among chunks. -/
def bodyLines : List Chunk → List Text
  | [] => []
  | .statement _ _ :: chunks => bodyLines chunks
  | .body line :: chunks => line :: bodyLines chunks

@[simp] theorem statements_append (cs ds : List Chunk) :
  statements (cs ++ ds) = statements cs ++ statements ds
  := by
  induction cs with
  | nil => rfl
  | cons c cs ih => cases c <;> simp [statements, ih]

@[simp] theorem bodyLines_append (cs ds : List Chunk) :
  bodyLines (cs ++ ds) = bodyLines cs ++ bodyLines ds
  := by
  induction cs with
  | nil => rfl
  | cons c cs ih => cases c <;> simp [bodyLines, ih]

theorem statements_ne_nil (chunks : List Chunk) :
  ∀ ls ∈ statements chunks, ls ≠ []
  := by
  induction chunks with
  | nil => exact List.forall_mem_nil _
  | cons c chunks ih =>
      cases c with
      | statement first more =>
          rw [statements, List.forall_mem_cons]
          exact ⟨List.cons_ne_nil _ _, ih⟩
      | body line => exact ih

/-- The rows of statements are rows of the chunks. -/
theorem mem_rows_of_mem_statements {chunks : List Chunk} {line : Text}
    (h : line ∈ (statements chunks).flatten) :
  line ∈ chunks.flatMap Chunk.rows
  := by
  induction chunks with
  | nil => contradiction
  | cons c chunks ih =>
      rw [List.flatMap_cons, List.mem_append]
      cases c with
      | statement first more =>
          rw [statements, List.flatten_cons, List.mem_append] at h
          exact h.imp id ih
      | body _ => exact .inr (ih h)

theorem mem_rows_of_mem_bodyLines {chunks : List Chunk} {line : Text}
    (h : line ∈ bodyLines chunks) :
  line ∈ chunks.flatMap Chunk.rows
  := by
  induction chunks with
  | nil => contradiction
  | cons c chunks ih =>
      rw [List.flatMap_cons, List.mem_append]
      cases c with
      | statement _ _ => exact .inr (ih h)
      | body _ => exact (List.mem_cons.mp h).imp List.mem_singleton.mpr ih

/-- An import statement begins as one, and a line of the body does not. -/
def Chunk.Begins : Chunk → Prop
  | .statement first _ => startsImport (Text.trim first) = true
  | .body line => startsImport (Text.trim line) = false

/-- The lines begin an import statement, and none of them ends it. -/
structure IsOpened (first : Text) (more : List Text) : Prop where
  begins : startsImport (Text.trim first) = true
  incomplete : isCompleteImport (Text.trim first) = false
  unended : ∀ line ∈ more, endsImport (Text.trim line) = false

/-- A line of the body, or an import statement up to the first line that ends it. -/
inductive Chunk.IsWhole : Chunk → Prop
  | short {first : Text} (begins : startsImport (Text.trim first) = true)
      (complete : isCompleteImport (Text.trim first) = true) :
    IsWhole (.statement first [])
  | long {first last : Text} {more : List Text} (opened : IsOpened first more)
      (ended : endsImport (Text.trim last) = true) :
    IsWhole (.statement first (more ++ [last]))
  | body {line : Text} (plain : startsImport (Text.trim line) = false) :
    IsWhole (.body line)

theorem Chunk.IsWhole.begins {c : Chunk} (whole : c.IsWhole) :
  c.Begins
  := by
  cases whole with
  | short begins => exact begins
  | long opened => exact opened.begins
  | body plain => exact plain

/-! ### Separation -/

/-- The rows of the statement that is not ended. -/
def openRows : Option (Text × List Text) → List Text
  | none => []
  | some (first, more) => first :: more

/-- What has been separated is these chunks, and the beginning of a statement. -/
structure Separation.Covers (s : Separation) (chunks : List Chunk)
    (begun : Option (Text × List Text)) : Prop where
  whole : ∀ c ∈ chunks, c.IsWhole
  opened : ∀ o ∈ begun, IsOpened o.1 o.2
  imports : s.imports.reverse = (statements chunks).map (Text.join ['\n'])
  body : s.body.reverse = bodyLines chunks
  isOpen : s.open? = begun.map fun o => Text.join ['\n'] (o.1 :: o.2)

section

variable {s : Separation} {chunks : List Chunk} {begun : Option (Text × List Text)}

theorem join_concat (first : Text) (more : List Text) (line : Text) :
  Text.join ['\n'] (first :: (more ++ [line])) = Text.join ['\n'] (first :: more) ++ '\n' :: line
  := by
  rw [← List.cons_append, Text.join_append _ (List.cons_ne_nil _ _) (List.cons_ne_nil _ _),
    List.append_assoc]
  rfl

/-- A chunk more, when no statement is open. -/
theorem Separation.Covers.add {t : Separation} {c : Chunk} (covers : s.Covers chunks begun)
    (whole : c.IsWhole)
    (imports : t.imports.reverse = s.imports.reverse ++ (statements [c]).map (Text.join ['\n']))
    (body : t.body.reverse = s.body.reverse ++ bodyLines [c]) (isOpen : t.open? = none) :
  t.Covers (chunks ++ [c]) none
  where
  whole := by
    intro d h
    rcases List.mem_append.mp h with h | h
    · exact covers.whole d h
    · rwa [List.mem_singleton.mp h]
  opened := nofun
  imports := by rw [imports, covers.imports, statements_append, List.map_append]
  body := by rw [body, covers.body, bodyLines_append]
  isOpen := isOpen

/-- One more line is a chunk of its own, or it goes on with the statement that is not ended. -/
theorem Separation.Covers.next (covers : s.Covers chunks begun) (line : Text) :
  ∃ chunks' begun', (s.next line).Covers chunks' begun'
    ∧ chunks'.flatMap Chunk.rows ++ openRows begun'
      = chunks.flatMap Chunk.rows ++ openRows begun ++ [line]
  := by
  cases begun with
  | none =>
      have isOpen : s.open? = none := covers.isOpen
      simp only [Separation.next, isOpen]
      split
      case isTrue begins =>
        split
        case isTrue complete =>
          refine ⟨chunks ++ [.statement line []], none, ?_, by simp [Chunk.rows, openRows]⟩
          apply covers.add (.short begins complete)
          · simp [statements, Text.join]
          · simp [bodyLines]
          · rfl
        case isFalse incomplete =>
          refine ⟨chunks, some (line, []), ?_, by simp [openRows]⟩
          refine ⟨covers.whole, ?_, covers.imports, covers.body, rfl⟩
          rintro o ⟨⟩
          exact ⟨begins, Bool.eq_false_iff.mpr incomplete, List.forall_mem_nil _⟩
      case isFalse plain =>
        refine ⟨chunks ++ [.body line], none, ?_, by simp [Chunk.rows, openRows]⟩
        apply covers.add (.body (Bool.eq_false_iff.mpr plain))
        · simp [statements]
        · simp [bodyLines]
        · rfl
  | some o =>
      obtain ⟨first, more⟩ := o
      have isOpen : s.open? = some (Text.join ['\n'] (first :: more)) := covers.isOpen
      have opened : IsOpened first more := covers.opened _ rfl
      simp only [Separation.next, isOpen]
      split
      case isTrue ended =>
        refine ⟨chunks ++ [.statement first (more ++ [line])], none, ?_,
          by simp [Chunk.rows, openRows]⟩
        apply covers.add (.long opened ended)
        · simp [statements, join_concat]
        · simp [bodyLines]
        · rfl
      case isFalse unended =>
        refine ⟨chunks, some (first, more ++ [line]), ?_, by simp [openRows]⟩
        refine ⟨covers.whole, ?_, covers.imports, covers.body, ?_⟩
        · rintro o ⟨⟩
          refine ⟨opened.begins, opened.incomplete, ?_⟩
          rw [List.forall_mem_append, List.forall_mem_singleton]
          exact ⟨opened.unended, Bool.eq_false_iff.mpr unended⟩
        · rw [Option.map_some, join_concat]

/-- Before the first line nothing has been separated. -/
theorem Separation.Covers.start :
  Separation.Covers {} [] none
  := ⟨List.forall_mem_nil _, fun o mem => absurd mem (Option.not_mem_none o), rfl, rfl, rfl⟩

/-- What has been separated after some lines covers these lines. -/
theorem Separation.Covers.foldl (covers : s.Covers chunks begun) (lines : List Text) :
  ∃ chunks' begun', (lines.foldl Separation.next s).Covers chunks' begun'
    ∧ chunks'.flatMap Chunk.rows ++ openRows begun'
      = chunks.flatMap Chunk.rows ++ openRows begun ++ lines
  := by
  induction lines generalizing s chunks begun with
  | nil =>
      rw [List.append_nil]
      exact ⟨chunks, begun, covers, rfl⟩
  | cons line lines ih =>
      obtain ⟨chunks', begun', covers', rows'⟩ := covers.next line
      obtain ⟨chunks'', begun'', covers'', rows''⟩ := ih covers'
      refine ⟨chunks'', begun'', covers'', ?_⟩
      rw [rows'', rows', List.append_assoc, List.singleton_append]

end

/-! ### Extraction -/

/-- What is extracted from rows is the import statements and the body of a sequence of chunks. Only
the last of them can be a statement that is not ended. -/
structure Extracted.From (e : Extracted) (rows : List Text) (chunks : List Chunk) : Prop where
  rows_eq : rows = chunks.flatMap Chunk.rows
  imports_eq : e.imports = (statements chunks).map (Text.join ['\n'])
  body_eq : e.body = Text.join ['\n'] (bodyLines chunks)
  begins : ∀ c ∈ chunks, c.Begins
  whole : ∀ c ∈ chunks.dropLast, c.IsWhole

theorem Separation.Covers.extracted {s : Separation} {chunks : List Chunk}
    {begun : Option (Text × List Text)} (covers : s.Covers chunks begun) :
  ∃ all, s.close.From (chunks.flatMap Chunk.rows ++ openRows begun) all
  := by
  have begins : ∀ c ∈ chunks, c.Begins := fun c h => (covers.whole c h).begins
  cases begun with
  | none =>
      have isOpen : s.open? = none := covers.isOpen
      refine ⟨chunks, List.append_nil _, ?_, ?_, begins, ?_⟩
      · simp only [Separation.close, isOpen, covers.imports]
      · simp only [Separation.close, covers.body]
      · intro c h
        exact covers.whole c (List.dropLast_subset _ h)
  | some o =>
      obtain ⟨first, more⟩ := o
      have isOpen : s.open? = some (Text.join ['\n'] (first :: more)) := covers.isOpen
      refine ⟨chunks ++ [.statement first more], ?_, ?_, ?_, ?_, ?_⟩
      · simp [Chunk.rows, openRows]
      · simp [Separation.close, isOpen, covers.imports, statements]
      · simp [Separation.close, covers.body, bodyLines]
      · rw [List.forall_mem_append, List.forall_mem_singleton]
        exact ⟨begins, (covers.opened _ rfl).begins⟩
      · rw [List.dropLast_concat]
        exact covers.whole

/-- Every row of a fragment is a row of one import statement, or a line of the body. -/
theorem exists_extracted_from (code : Text) :
  ∃ chunks, (extractImports code).From (Text.rows code) chunks
  := by
  obtain ⟨chunks, begun, covers, rows⟩ := Separation.Covers.start.foldl (Text.rows code)
  obtain ⟨all, extracted⟩ := covers.extracted
  rw [rows] at extracted
  exact ⟨all, extracted⟩

theorem Extracted.From.newline_notMem {code : Text} {e : Extracted} {chunks : List Chunk}
    (extracted : e.From (Text.rows code) chunks) {line : Text} (h : line ∈ chunks.flatMap Chunk.rows) :
  '\n' ∉ line
  := by
  rw [← extracted.rows_eq] at h
  exact Text.notMem_of_mem_pieces h

end Script

end NotebookEngine
