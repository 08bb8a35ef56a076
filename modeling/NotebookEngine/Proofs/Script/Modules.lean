import NotebookEngine.CommandLine.Answer
import NotebookEngine.Proofs.Script.Imports
import NotebookEngine.Proofs.Script.Returns

/-!
# Lines of a script module

Every line of a fragment stands in its module once: the import statements below the header, the body
within the function (`hoisting`). Blanks at the end of the body are missing, and one line of
the body may be returned (`Returned`). The command line shows the same statements and the same body.
-/

namespace NotebookEngine

namespace Script

/-! ### The lines of a module -/

theorem endLines_eq (lines : List String) :
  endLines lines = Text.ended (lines.map String.toList)
  := by
  rw [endLines, Text.ended, List.flatMap_map]

/-- The first lines of every module. -/
def headerLines : List Text :=
  ["import \x7b writeFileSync as __polycellWrite \x7d from 'fs';",
    "import \x7b inspect as __polycellInspect \x7d from 'util';"].map String.toList

/-- The lines between the imports and the body of a module. -/
def preludeLines (result : Text) : List Text :=
  ["",
    "const __polycellFail = (e: any) => \x7b",
    "    const thrown = e ?? \x7b\x7d;"].map String.toList
  ++ ["    __polycellWrite(".toList ++ Json.string result ++ ", JSON.stringify(\x7b".toList]
  ++ ["        status: 'error',",
    "        error: \x7b",
    "            name: String(thrown.name || 'Error'),",
    "            message: String(thrown.message || e),",
    "            stack: String(thrown.stack || '')",
    "        \x7d",
    "    \x7d));",
    "\x7d;",
    "",
    "(async () => \x7b"].map String.toList

/-- The lines of a module after the body. -/
def closingLines (result : Text) (depth : Nat) : List Text :=
  ["\x7d)().then((value: unknown) => \x7b".toList,
    "    __polycellWrite(".toList ++ Json.string result ++ ", JSON.stringify(\x7b".toList,
    "        status: 'ok',".toList,
    "        result: value === undefined ? null : __polycellInspect(value, \x7b depth: ".toList
      ++ Text.ofNat depth ++ ", colors: false \x7d)".toList,
    "    \x7d));".toList,
    "\x7d, __polycellFail);".toList]

/-- The lines of a module around imports and a body. -/
def moduleLines (imports body : List Text) (result : Text) (depth : Nat) : List Text :=
  headerLines ++ imports ++ preludeLines result ++ body ++ closingLines result depth

theorem moduleHeader_eq :
  moduleHeader = Text.ended headerLines
  := endLines_eq _

theorem modulePrelude_eq (result : Text) :
  modulePrelude result = Text.ended (preludeLines result)
  := by
  simp only [modulePrelude, preludeLines, endLines_eq, List.map_cons, List.map_nil, Text.ended_cons,
    Text.ended_nil, List.append_assoc, List.cons_append, List.nil_append]

theorem moduleEnd_eq (result : Text) (depth : Nat) :
  moduleEnd result depth = '\n' :: Text.ended (closingLines result depth)
  := by
  have empty : "".toList = [] := rfl
  simp only [moduleEnd, closingLines, endLines_eq, List.map_cons, List.map_nil, Text.ended_cons,
    Text.ended_nil, List.append_assoc, List.cons_append, List.nil_append, empty]

theorem newline_notMem_ofNat (n : Nat) :
  '\n' ∉ Text.ofNat n
  := by
  have digits : Text.ofNat n = Nat.toDigits 10 n := by simp [Text.ofNat, Nat.repr]
  rw [digits]
  intro h
  have digit := Nat.isDigit_of_mem_toDigits (by decide) (by decide) h
  contradiction

theorem newline_notMem_moduleLines {imports body : List Text}
    (imports_whole : ∀ line ∈ imports, '\n' ∉ line) (body_whole : ∀ line ∈ body, '\n' ∉ line)
    (result : Text) (depth : Nat) :
  ∀ line ∈ moduleLines imports body result depth, '\n' ∉ line
  := by
  simp only [moduleLines, List.forall_mem_append]
  refine ⟨⟨⟨⟨?_, imports_whole⟩, ?_⟩, body_whole⟩, ?_⟩
  · decide +kernel
  · simp only [preludeLines, List.forall_mem_append, List.forall_mem_singleton]
    refine ⟨⟨?_, ?_⟩, ?_⟩
    · decide +kernel
    · simp only [List.mem_append, not_or]
      exact ⟨⟨by decide +kernel, Json.newline_notMem_string result⟩, by decide +kernel⟩
    · decide +kernel
  · simp only [closingLines, List.forall_mem_cons, List.mem_append, not_or]
    refine ⟨?_, ⟨⟨?_, Json.newline_notMem_string result⟩, ?_⟩, ?_,
      ⟨⟨?_, newline_notMem_ofNat depth⟩, ?_⟩, ?_⟩
    all_goals decide +kernel

section

variable {code : Text} {chunks : List Chunk}
  (extracted : (extractImports code).From (Text.rows code) chunks)

include extracted

theorem Extracted.From.ended_imports :
  Text.ended (extractImports code).imports = Text.ended (statements chunks).flatten
  := by
  rw [extracted.imports_eq, Text.ended_map_join (statements_ne_nil chunks)]

theorem Extracted.From.typedModule (result : Text) (depth : Nat) :
  typedModule code result depth
    = Text.ended (moduleLines (statements chunks).flatten
        (Text.rows (addReturn .typed (extractImports code).body)) result depth)
  := by
  have imports : (extractImports code).imports.flatMap (fun statement => statement ++ ['\n'])
      = Text.ended (statements chunks).flatten := extracted.ended_imports
  simp only [Script.typedModule, imports, moduleHeader_eq, modulePrelude_eq, moduleEnd_eq,
    moduleLines, Text.ended_append, Text.ended_rows, List.append_assoc, List.singleton_append]

/-- A fragment as the command line shows it. -/
theorem Extracted.From.transformed :
  CommandLine.line (transformed .typed code)
    = Text.ended ((statements chunks).flatten
        ++ Text.rows (addReturn .typed (extractImports code).body))
  := by
  rw [CommandLine.line, Script.transformed, Text.join_concat_newline (by simp), Text.ended_append,
    Text.ended_append, extracted.ended_imports, Text.ended_rows]
  simp

theorem Extracted.From.trimmedEnd :
  Text.TrimmedEnd (bodyLines chunks) (Text.rows (Text.trimEnd (extractImports code).body))
  := by
  rw [extracted.body_eq]
  apply Text.trimmedEnd_join
  intro line h
  exact extracted.newline_notMem (mem_rows_of_mem_bodyLines h)

end

end Script

/-! ### The command line -/

namespace CommandLine

/-- A fragment that is to be shown as it would be run. -/
theorem answer_transform {words : List Text} {r : Request} {source tag code : Text} {s : Setting}
    {m : Host.Machine} {config : Config} (request : Request.ofWords words = .ok r)
    (action : r.action = .transform source tag) (language : Language.ofTag? tag = some .typescript)
    (configured : configuration s.site m r.configPath = .ok config)
    (read : sourceText s m source = .ok code) :
  answer words s m = some (⟨0, line (Script.transformed .typed code), []⟩, m)
  := by
  have performed : perform config s m (.transform source tag)
      = .ok (some (⟨0, line (Script.transformed .typed code), []⟩, m)) := by
    simp [perform, read, taggedLanguage, language, bind, Except.bind]
  simp [answer, request, Request.answer, configured, action, performed, bind, Except.bind]

theorem readWord_source {source : Text} (isSource : source = ['-'] ∨ source.head? ≠ some '-') :
  transformLevel.readWord {} source = .ok { given := { arguments := [source] } }
  := by
  rcases isSource with rfl | other
  · rfl
  · unfold Level.readWord
    split
    · rfl
    · split
      · simp at other
      · simp at other
      · simp at other
      · rfl

/-- The command line that asks to show a typed fragment. -/
theorem ofWords_transform {source : Text} (isSource : source = ['-'] ∨ source.head? ≠ some '-') :
  Request.ofWords ["transform".toList, source, "--lang".toList, "ts".toList]
    = .ok ⟨.transform source "ts".toList, none, false⟩
  := by
  have first : firstLevel.read {} ["transform".toList, source, "--lang".toList, "ts".toList]
      = .ok ({}, some ("transform", [source, "--lang".toList, "ts".toList])) := rfl
  have level : commands.lookup "transform" = some
      ("Print a JavaScript or TypeScript fragment after return-wrapping", transformLevel) := rfl
  have noCommands : transformLevel.commands = [] := rfl
  have given : readAfter "transform" [source, "--lang".toList, "ts".toList]
      = .ok { values := [("lang", "ts".toList)], arguments := [source] } := by
    rw [readAfter, level]
    simp only [Level.read, noCommands, List.find?_nil, readWord_source isSource, bind, Except.bind]
    rfl
  rw [Request.ofWords, first]
  simp only [bind, Except.bind, given]
  rfl

end CommandLine

namespace Script

open CommandLine in
/-- The rows of a fragment are its import statements and the lines of its body. The module of the
fragment is these statements and this body between fixed lines, the body without blanks at its end
and with at most one line returned; and the command line shows the same statements and the same
body. -/
theorem hoisting (code : Text) :
  ∃ chunks kept printed,
    (extractImports code).From (Text.rows code) chunks
      ∧ Text.TrimmedEnd (bodyLines chunks) kept
      ∧ Returned kept printed
      ∧ (∀ result depth,
        typedModule code result depth
            = Text.ended (moduleLines (statements chunks).flatten printed result depth)
          ∧ Text.rows (typedModule code result depth)
            = moduleLines (statements chunks).flatten printed result depth ++ [[]])
      ∧ (∀ words r source tag config s m, Request.ofWords words = .ok r →
        r.action = .transform source tag → Language.ofTag? tag = some .typescript →
        configuration s.site m r.configPath = .ok config → sourceText s m source = .ok code →
        answer words s m
          = some (⟨0, Text.ended ((statements chunks).flatten ++ printed), []⟩, m))
      ∧ (∀ source s m, source = ['-'] ∨ source.head? ≠ some '-' → sourceText s m source = .ok code →
        answer ["transform".toList, source, "--lang".toList, "ts".toList] s m
          = some (⟨0, Text.ended ((statements chunks).flatten ++ printed), []⟩, m))
  := by
  obtain ⟨chunks, extracted⟩ := exists_extracted_from code
  have returned := returned_addReturn .typed (extractImports code).body
  refine ⟨chunks, _, _, extracted, extracted.trimmedEnd, returned, ?_, ?_, ?_⟩
  · intro result depth
    refine ⟨extracted.typedModule result depth, ?_⟩
    rw [extracted.typedModule, Text.rows_ended]
    apply newline_notMem_moduleLines
    · intro line h
      exact extracted.newline_notMem (mem_rows_of_mem_statements h)
    · intro line h
      exact Text.notMem_of_mem_pieces h
  · intro words r source tag config s m request action language configured read
    rw [answer_transform request action language configured read, extracted.transformed]
  · intro source s m isSource read
    rw [answer_transform (ofWords_transform isSource) rfl (by decide) rfl read,
      extracted.transformed]

/-- A fragment with two imports below its first line: one over several lines, and one that is not
ended. -/
def scattered : Text :=
  "let n = 1;\nimport \x7b\n  a,\n\x7d from 'a';\nn + a  \n\nimport b".toList

open CommandLine in
theorem hoisting_scattered :
  (extractImports scattered).imports
      = ["import \x7b\n  a,\n\x7d from 'a';".toList, "import b".toList]
    ∧ addReturn .typed (extractImports scattered).body = "let n = 1;\nreturn n + a".toList
    ∧ ∀ m, sourceText ⟨⟨[], []⟩, Host.Octets.ofText scattered⟩ m ['-'] = .ok scattered
      ∧ ∃ chunks kept printed, (extractImports scattered).From (Text.rows scattered) chunks
        ∧ Text.TrimmedEnd (bodyLines chunks) kept ∧ Returned kept printed
        ∧ answer ["transform".toList, ['-'], "--lang".toList, "ts".toList]
            ⟨⟨[], []⟩, Host.Octets.ofText scattered⟩ m
          = some (⟨0, Text.ended ((statements chunks).flatten ++ printed), []⟩, m)
  := by
  refine ⟨by decide +kernel, by decide +kernel, ?_⟩
  intro m
  have decoded : Host.Octets.toText? (Host.Octets.ofText scattered) = some scattered := by
    decide +kernel
  have source : sourceText ⟨⟨[], []⟩, Host.Octets.ofText scattered⟩ m ['-'] = .ok scattered := by
    simp only [sourceText, ↓reduceIte, decoded]
  obtain ⟨chunks, kept, printed, extracted, trimmed, returned, -, -, shown⟩ := hoisting scattered
  exact ⟨source, chunks, kept, printed, extracted, trimmed, returned,
    shown ['-'] _ m (.inl rfl) source⟩

end Script

end NotebookEngine
