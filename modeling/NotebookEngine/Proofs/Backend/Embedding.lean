import NotebookEngine.Proofs.Fragment.Literals
import NotebookEngine.Proofs.Script.Literals
import NotebookEngine.Script.Program

/-!
# Paths in generated programs

A generated program names the files that it reads and writes by string literals. Around them it is the same
whatever the paths are, and each literal stands for its path and ends where it ends (`paths_embedded`).
-/

namespace NotebookEngine

/-- The literal is read as the text, up to its end, whatever follows. -/
def Denotes (read : Text → Option (Text × Text)) (literal text : Text) : Prop :=
  ∀ rest, read (literal ++ rest) = some (text, rest)

theorem denotes_quote (path : Text) :
  Denotes Fragment.readString? (Text.quote path) path
  := Fragment.readString?_quote path

theorem denotes_string (path : Text) :
  Denotes Script.readText? (Json.string path) path
  := Script.readText?_string path

namespace Fragment

/-- Only a program that captures a value names the file of the value. -/
theorem program_of_not_capturesValue {p : Parts} (none : p.capturesValue = false) (path path' : Text) :
  p.program path = p.program path'
  := by
  obtain ⟨definitions, body, hasEntryPoint⟩ := p
  cases hasEntryPoint with
  | true => rfl
  | false =>
      cases body with
      | none => rfl
      | some body => exact absurd none.symm Bool.false_ne_true

/-- A program that captures a value creates the file of the value by its path. -/
theorem program_of_capturesValue {p : Parts} (captures : p.capturesValue = true) :
  ∃ before after, "std::fs::File::create(".toList <:+ before ∧ [')'] <+: after
    ∧ ∀ path, p.program path = before ++ Text.quote path ++ after
  := by
  obtain ⟨definitions, body, hasEntryPoint⟩ := p
  rw [Parts.capturesValue, Bool.and_eq_true, Bool.not_eq_true', Option.isSome_iff_exists] at captures
  obtain ⟨rfl, body, rfl⟩ := captures
  have apart (attributes use items gap opening closing path ending : Text) :
      attributes ++ use ++ items ++ gap ++ (opening ++ body ++ closing ++ path ++ ending)
        = attributes ++ use ++ items ++ gap ++ (opening ++ body ++ closing) ++ path ++ ending := by
    simp only [List.append_assoc]
  refine ⟨_, _, ?_, ?_, fun path => apart _ _ _ _ _ _ (Text.quote path) _⟩
  · apply List.suffix_append_of_suffix
    apply List.suffix_append_of_suffix
    decide +kernel
  · decide +kernel

end Fragment

namespace Script

theorem executor_parts (depth : Nat) :
  ∃ a b c, "const resultFile = ".toList <:+ a ∧ [';'] <+: b
    ∧ "const source = fs.readFileSync(".toList <:+ b ∧ ", 'utf8')".toList <+: c
    ∧ ∀ user result, executor user result depth = a ++ Json.string result ++ b ++ Json.string user ++ c
  := by
  have apart (header k₁ result k₂ k₃ user k₄ body k₅ depth ending : Text) :
      header ++ k₁ ++ result ++ k₂ ++ k₃ ++ user ++ k₄ ++ body ++ k₅ ++ depth ++ ending
        = header ++ k₁ ++ result ++ (k₂ ++ k₃) ++ user ++ (k₄ ++ (body ++ k₅ ++ depth ++ ending)) := by
    simp only [List.append_assoc]
  refine ⟨_, _, _, ?_, ?_, ?_, ?_, fun user result => apart _ _ _ _ _ _ _ _ _ _ _⟩
  · exact List.suffix_append _ _
  · apply List.prefix_append_of_prefix
    decide
  · exact List.suffix_append _ _
  · apply List.prefix_append_of_prefix
    decide +kernel

theorem modulePrelude_parts :
  ∃ a b, "__polycellWrite(".toList <:+ a ∧ ", JSON.stringify(".toList <+: b
    ∧ ∀ result, modulePrelude result = a ++ Json.string result ++ b
  := by
  refine ⟨_, _, ?_, ?_, fun result => rfl⟩
  · apply List.suffix_append_of_suffix
    decide +kernel
  · decide +kernel

theorem moduleEnd_parts (depth : Nat) :
  ∃ a b, "__polycellWrite(".toList <:+ a ∧ ", JSON.stringify(".toList <+: b
    ∧ ∀ result, moduleEnd result depth = a ++ Json.string result ++ b
  := by
  have apart (header k₁ result k₂ k₃ depth ending : Text) :
      header ++ k₁ ++ result ++ k₂ ++ k₃ ++ depth ++ ending
        = header ++ k₁ ++ result ++ (k₂ ++ (k₃ ++ depth ++ ending)) := by
    simp only [List.append_assoc]
  refine ⟨_, _, ?_, ?_, fun result => apart _ _ _ _ _ _ _⟩
  · apply List.suffix_append_of_suffix
    decide +kernel
  · apply List.prefix_append_of_prefix
    decide +kernel

/-- A module names the file of its report in two places. -/
theorem typedModule_parts (code : Text) (depth : Nat) :
  ∃ a b c, "__polycellWrite(".toList <:+ a ∧ ", JSON.stringify(".toList <+: b
    ∧ "__polycellWrite(".toList <:+ b ∧ ", JSON.stringify(".toList <+: c
    ∧ ∀ result, typedModule code result depth = a ++ Json.string result ++ b ++ Json.string result ++ c
  := by
  obtain ⟨a, b, a_ends, b_begins, prelude_eq⟩ := modulePrelude_parts
  obtain ⟨b', c, b_ends, c_begins, end_eq⟩ := moduleEnd_parts depth
  have apart (header imports body result : Text) :
      header ++ imports ++ (a ++ result ++ b) ++ body ++ (b' ++ result ++ c)
        = header ++ imports ++ a ++ result ++ (b ++ (body ++ b')) ++ result ++ c := by
    simp only [List.append_assoc]
  have module_eq (result : Text) := apart moduleHeader
    ((extractImports code).imports.flatMap fun statement => statement ++ ['\n'])
    (addReturn .typed (extractImports code).body) (Json.string result)
  refine ⟨_, _, c, ?_, ?_, ?_, c_begins, fun result => Eq.trans ?_ (module_eq result)⟩
  · exact List.suffix_append_of_suffix a_ends
  · exact List.prefix_append_of_prefix b_begins
  · exact List.suffix_append_of_suffix (List.suffix_append_of_suffix b_ends)
  · rw [typedModule, prelude_eq, end_eq]

end Script

/-- Each path in a generated program stands there by a literal that denotes it, and the program around the
literals does not depend on the paths. -/
theorem paths_embedded :
  (∀ p : Fragment.Parts,
    (p.capturesValue = true → ∃ before after,
      "std::fs::File::create(".toList <:+ before ∧ [')'] <+: after
      ∧ ∀ path, ∃ literal, Denotes Fragment.readString? literal path
        ∧ Fragment.Lexer.literal? (literal ++ after) = some (.string, after)
        ∧ p.program path = before ++ literal ++ after)
    ∧ (p.capturesValue = false → ∀ path path', p.program path = p.program path'))
  ∧ (∀ depth, ∃ a b c,
      "const resultFile = ".toList <:+ a ∧ [';'] <+: b
      ∧ "const source = fs.readFileSync(".toList <:+ b ∧ ", 'utf8')".toList <+: c
      ∧ ∀ user result, ∃ u r, Denotes Script.readText? u user ∧ Denotes Script.readText? r result
        ∧ Script.executor user result depth = a ++ r ++ b ++ u ++ c)
  ∧ (∀ code depth, ∃ a b c,
      "__polycellWrite(".toList <:+ a ∧ ", JSON.stringify(".toList <+: b
      ∧ "__polycellWrite(".toList <:+ b ∧ ", JSON.stringify(".toList <+: c
      ∧ ∀ result, ∃ r, Denotes Script.readText? r result
        ∧ Script.typedModule code result depth = a ++ r ++ b ++ r ++ c)
  := by
  refine ⟨fun p => ⟨fun captures => ?_, Fragment.program_of_not_capturesValue⟩, fun depth => ?_,
    fun code depth => ?_⟩
  · obtain ⟨before, after, begins, ends, program_eq⟩ := Fragment.program_of_capturesValue captures
    refine ⟨before, after, begins, ends, fun path => ?_⟩
    refine ⟨Text.quote path, denotes_quote path, ?_, program_eq path⟩
    obtain ⟨rest, rfl⟩ := ends
    exact Fragment.literal?_quote path (by decide) rest
  · obtain ⟨a, b, c, a_ends, b_begins, b_ends, c_begins, executor_eq⟩ := Script.executor_parts depth
    refine ⟨a, b, c, a_ends, b_begins, b_ends, c_begins, fun user result => ?_⟩
    exact ⟨_, _, denotes_string user, denotes_string result, executor_eq user result⟩
  · obtain ⟨a, b, c, a_ends, b_begins, b_ends, c_begins, module_eq⟩ := Script.typedModule_parts code depth
    refine ⟨a, b, c, a_ends, b_begins, b_ends, c_begins, fun result => ?_⟩
    exact ⟨_, denotes_string result, module_eq result⟩

end NotebookEngine
