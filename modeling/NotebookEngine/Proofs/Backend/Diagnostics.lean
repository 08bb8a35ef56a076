import NotebookEngine.Proofs.Backend.Outcomes
import NotebookEngine.Proofs.Text.Replacement

/-!
# Diagnostics of a compiler

If the compiler refuses a program, its diagnostics are reported with a placeholder for the path of the
staged source (`Compiled.Goes.eq_notCompiled`). Nothing else is changed in them, and the path is not in what
is reported, not even across a placeholder (`Compiled.diagnostics_reported`).
-/

namespace NotebookEngine

namespace Compiled

open Plan (Exchange)

variable {config : Config} {compiler id code cellId : Text} {xs : List Exchange} {r : CellResult}
  {output : ProcessOutput}

/-! ### A compiler that does not succeed -/

/-- If the compiler does not succeed, that is what comes of the run. -/
theorem Goes.eq_notCompiled (goes : Goes config compiler id code cellId xs r)
    (told : .ok output ∈ (account config (some compiler) id code xs).compilations)
    (fails : output.ending ≠ .exited (.code 0)) :
  r = Compiled.notCompiled cellId ((staging config id).path ".rs".toList) config.compileTimeout output
  := by
  cases goes with
  | notMade | notWritten => exact absurd told List.not_mem_nil
  | notStarted =>
      rw [account_compiling, List.mem_singleton] at told
      cases told
  | notCompiled =>
      rw [account_compiling, List.mem_singleton] at told
      cases told
      rfl
  | notLaunched compiles | notRun compiles | uncaptured compiles =>
      rw [account_running, List.mem_singleton] at told
      cases told
      exact absurd compiles fails
  | finished compiles =>
      rw [account_reading, List.mem_singleton] at told
      cases told
      exact absurd compiles fails

/-! ### The path of the staged source -/

theorem mem_joinPath {c : Char} {directory name : Text} (stands : c ∈ joinPath directory name) :
  c ∈ directory ∨ c = '/' ∨ c ∈ name
  := by
  unfold joinPath at stands
  split at stands
  · exact (List.mem_append.mp stands).imp_right .inr
  · rwa [List.mem_append, List.mem_cons] at stands

theorem suffix_joinPath (directory name : Text) :
  name <:+ joinPath directory name
  := by
  unfold joinPath
  split
  · exact List.suffix_append _ _
  · exact (List.suffix_cons _ _).trans (List.suffix_append _ _)

/-- The path of the staged source of a run. -/
def source (config : Config) (id : Text) : Text :=
  (staging config id).path ".rs".toList

theorem fileName_staging (config : Config) (id suffix : Text) :
  (staging config id).fileName suffix = "polycell_".toList ++ "rust".toList ++ '_' :: id ++ suffix
  := rfl

/-- A mark that is not in the directory or the identifier is not in the path of the source. -/
theorem notMem_source {c : Char} (mark : c = '<' ∨ c = '>') (directory : c ∉ config.tempDir)
    (plain : c ∉ id) :
  c ∉ source config id
  := by
  have words : c ≠ '/' ∧ c ∉ "polycell_".toList ++ "rust".toList ∧ c ≠ '_' ∧ c ∉ ".rs".toList := by
    rcases mark with rfl | rfl <;> decide
  intro stands
  rcases mem_joinPath stands with inDirectory | slash | inName
  · exact directory inDirectory
  · exact words.1 slash
  · rw [fileName_staging, List.mem_append, List.mem_append, List.mem_cons] at inName
    rcases inName with (begins | underscore | inId) | ends
    · exact words.2.1 begins
    · exact words.2.2.1 underscore
    · exact plain inId
    · exact words.2.2.2 ends

theorem underscore_mem_source (config : Config) (id : Text) :
  '_' ∈ source config id
  := by
  apply (suffix_joinPath config.tempDir _).subset
  rw [fileName_staging, List.mem_append, List.mem_append]
  exact .inl (.inr List.mem_cons_self)

/-- The path of the source does not stand in the placeholder. -/
theorem not_source_isInfix (config : Config) (id : Text) :
  ¬source config id <:+: "rust".toList
  := by
  intro inside
  have stands := inside.subset (underscore_mem_source config id)
  revert stands
  decide

/-- The diagnostics are the same text but for the path of the source, and do not hold the path. -/
theorem diagnostics_eq_join (directory : '<' ∉ config.tempDir ∧ '>' ∉ config.tempDir)
    (plain : '<' ∉ id ∧ '>' ∉ id) (stderr : Text) :
  ∃ parts, Text.CutAt (source config id) stderr parts
    ∧ diagnostics (source config id) stderr = Text.join placeholder parts
    ∧ ¬source config id <:+: diagnostics (source config id) stderr
  := by
  have some : source config id ≠ [] := List.ne_nil_of_mem (underscore_mem_source config id)
  obtain ⟨parts, cut, replaced⟩ := Text.exists_replaceAll_eq_join some placeholder stderr
  refine ⟨parts, cut, replaced, ?_⟩
  have word : placeholder = '<' :: ("rust".toList ++ ['>']) := by decide
  rw [diagnostics, replaced, word]
  apply Text.not_isInfix_join some _ _ (not_source_isInfix config id) cut.free
  · exact notMem_source (.inl rfl) directory.1 plain.1
  · exact notMem_source (.inr rfl) directory.2 plain.2

/-! ### What is reported -/

theorem content_isInfix {what : String} {stream : Text} {effect : SideEffect}
    (shown : sideEffect? what stream = some effect) :
  effect.content <:+: stream
  := by
  simp only [sideEffect?] at shown
  split at shown
  · contradiction
  · cases shown
    exact Text.isInfix_trim stream

/-- What the effects show stands on one of the streams. -/
theorem isInfix_of_mem_sideEffects {stdout stderr : Text} {effect : SideEffect}
    (stands : effect ∈ sideEffects stdout stderr) :
  effect.content <:+: stdout ∨ effect.content <:+: stderr
  := by
  rw [sideEffects, List.mem_filterMap] at stands
  obtain ⟨shown, stands, rfl⟩ := stands
  rw [List.mem_cons, List.mem_singleton] at stands
  exact stands.imp (fun same => content_isInfix same.symm) (fun same => content_isInfix same.symm)

theorem sideEffects_failed (failure : Failure) (stdout stderr : Text) :
  (CellResult.failed cellId failure stdout stderr).sideEffects = sideEffects stdout stderr
  := rfl

/-- The diagnostics of a compiler that leaves without success are reported as they are, but for the path of
the source. In its place stands the placeholder, and the path is nowhere in what is reported. -/
theorem diagnostics_reported (directory : '<' ∉ config.tempDir ∧ '>' ∉ config.tempDir)
    (plain : '<' ∉ id ∧ '>' ∉ id) {status : ExitStatus}
    (dialogue : (plan config (some compiler) id code cellId).Dialogue xs r)
    (told : .ok output ∈ (account config (some compiler) id code xs).compilations)
    (exited : output.ending = .exited status) (fails : status ≠ .code 0) :
  ∃ parts, Text.CutAt (source config id) output.stderr parts
    ∧ r = .failed cellId (.ofKind .compilationError "Failed to compile Rust code".toList
      (Text.join placeholder parts)) [] (Text.join placeholder parts)
    ∧ ¬source config id <:+: Text.join placeholder parts
    ∧ ∀ effect ∈ r.sideEffects, ¬source config id <:+: effect.content
  := by
  have unsuccessful : output.ending ≠ .exited (.code 0) := by
    rw [exited]
    intro same
    exact fails (Ending.exited.inj same)
  obtain ⟨parts, cut, replaced, hidden⟩ := diagnostics_eq_join directory plain output.stderr
  have reported : r = .failed cellId (.ofKind .compilationError "Failed to compile Rust code".toList
      (Text.join placeholder parts)) [] (Text.join placeholder parts) := by
    rw [(goes_of_dialogue dialogue).eq_notCompiled told unsuccessful, notCompiled, exited, ← replaced]
    rfl
  rw [replaced] at hidden
  refine ⟨parts, cut, reported, hidden, ?_⟩
  intro effect stands inside
  rw [reported, sideEffects_failed] at stands
  rcases isInfix_of_mem_sideEffects stands with onOutput | onDiagnostics
  · have empty := inside.trans onOutput
    rw [List.infix_nil] at empty
    exact List.ne_nil_of_mem (underscore_mem_source config id) empty
  · exact hidden (inside.trans onDiagnostics)

/-- A compiler leaves with code one and names the source twice, once next to the other. -/
def refusal (config : Config) (id : Text) : ProcessOutput :=
  ⟨.exited (.code 1), [], source config id ++ source config id ++ ":1".toList⟩

theorem diagnostics_reported_adjacent :
  let config : Config := { tempDir := "/tmp".toList }
  ∃ xs r, (plan config (some "rustc".toList) "a1".toList "x".toList "c1".toList).Dialogue xs r
    ∧ r.stderr = "<rust><rust>:1".toList ∧ ¬source config "a1".toList <:+: r.stderr
  := by
  intro config
  let output := refusal config "a1".toList
  have dialogue : (plan config (some "rustc".toList) "a1".toList "x".toList "c1".toList).Dialogue
      (begun config "a1".toList "x".toList ++ [compiling config "rustc".toList "a1".toList (.ok output)])
      (Compiled.notCompiled "c1".toList (source config "a1".toList) config.compileTimeout output) :=
    .register (.register (.makeDirectory (.ok ()) (.register (.write (.ok ()) (.run (.ok output)
      (.remove (.remove (.remove (.done _)))))))))
  obtain ⟨parts, -, reported, hidden, -⟩ := diagnostics_reported (by decide) (by decide) dialogue
    (by rw [account_compiling]; exact List.mem_singleton_self _) rfl (by decide)
  have shown := congrArg CellResult.stderr reported
  refine ⟨_, _, dialogue, by decide +kernel, ?_⟩
  rwa [shown]

end Compiled

end NotebookEngine
