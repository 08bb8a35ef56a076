import NotebookEngine.Engine
import NotebookEngine.Proofs.Backend.Staging

/-!
# Staging in the engine

A fragment with files of its own leaves none of them and touches no others, and without its tool, or
in no language at all, nothing is done for it (`Engine.staging_tidy`).
-/

namespace NotebookEngine

open Host (Octets Files Machine)

/-- The tool that fragments of a language need. -/
def Language.toolchain (l : Language) : Toolchain :=
  ((Backend.ofLanguage? l).map Backend.toolchain).getD .python

namespace Engine

variable {e : Engine} {r : Fragment.Request} {b : Backend}

/-- A fragment has the plan of its backend. -/
theorem plan?_eq :
  e.plan? r = (Backend.ofLanguage? r.language).map fun b =>
    b.plan e.config (e.find b.toolchain) (stagingId e.staged) r.code r.cellId
  := by
  unfold plan?
  cases r.language <;> rfl

/-- A fragment with files of its own is run by the plan of its backend. -/
theorem execute_of_own (own : Backend.ofLanguage? r.language = some b) :
  e.execute r = some (e.perform
    (b.plan e.config (e.find b.toolchain) (stagingId e.staged) r.code r.cellId))
  := by
  simp only [execute, plan?_eq, own, Option.map_some]

/-- Without its tool, nothing is done for a fragment. -/
theorem execute_of_find_none (missing : e.find r.language.toolchain = none) :
  ∃ result e', e.execute r = some (result, e') ∧ e'.hosted = e.hosted
  := by
  cases own : Backend.ofLanguage? r.language with
  | some b =>
      have missing : e.find b.toolchain = none := by simpa [Language.toolchain, own] using missing
      refine ⟨_, _, execute_of_own own, ?_⟩
      rw [missing, Backend.plan_none]
      rfl
  | none =>
      have missing : e.find .python = none := by simpa [Language.toolchain, own] using missing
      refine ⟨withoutInterpreter r.cellId, e, ?_, rfl⟩
      simp only [execute, plan?_eq, own, Option.map_none, demand?, missing]

/-- When a fragment with files of its own has been run, the files that it has registered are gone,
and no others are changed. -/
theorem execute_tidy (own : Backend.ofLanguage? r.language = some b)
    (sound : e.hosted.machine.files.Sound)
    (confined : (b.plan e.config (e.find b.toolchain) (stagingId e.staged) r.code r.cellId).Confined
      e.hosted.site (b.paths e.config.tempDir (stagingId e.staged)) e.hosted.machine) :
  ∃ result e', e.execute r = some (result, e')
    ∧ ∃ registered ⊆ b.paths e.config.tempDir (stagingId e.staged),
      Files.Spares e.hosted.site.directory registered e.hosted.machine.files
          e'.hosted.machine.files
        ∧ ∀ path ∈ registered,
          e'.hosted.machine.files.regularAt? e.hosted.site.directory path = none
  := by
  obtain ⟨registered, steps⟩ := Plan.perform_steps sound confined []
  have keeps := (b.plan_staged e.config (stagingId e.staged) r.code r.cellId _).keeps steps
  exact ⟨_, _, execute_of_own own, registered, keeps.own, keeps.spares, keeps.clean rfl⟩

/-- A backend registers paths of its own, and at every stage of its plan, whatever the host answers,
only files whose paths are registered by then are changed, or are changed next; when it is done,
nothing is left of them. So it is when the engine runs a fragment and the programs that are run
change files only at the paths given to them. Without the tool of a language no file is touched and
nothing is run, nor is it for a tag of no language. -/
theorem staging_tidy :
  (∀ (b : Backend) (config : Config) (tool : Option Text) (id code cellId : Text)
      (here : Host.Path) (files : Files) (s : Plan.Stage CellResult),
      Plan.Stage.Steps here (b.paths config.tempDir id)
        ⟨[], b.plan config tool id code cellId, files⟩ s →
      s.registered ⊆ b.paths config.tempDir id
        ∧ Files.Spares here s.registered files s.files
        ∧ (∀ s', Plan.Stage.Step here (b.paths config.tempDir id) s s' →
          Files.Spares here s.registered s.files s'.files)
        ∧ ∀ result, s.plan = .done result →
          ∀ path ∈ s.registered, s.files.regularAt? here path = none)
    ∧ (∀ (e : Engine) (r : Fragment.Request) (b : Backend),
      Backend.ofLanguage? r.language = some b → e.hosted.machine.files.Sound →
      (b.plan e.config (e.find b.toolchain) (stagingId e.staged) r.code r.cellId).Confined
        e.hosted.site (b.paths e.config.tempDir (stagingId e.staged)) e.hosted.machine →
      ∃ result e', e.execute r = some (result, e')
        ∧ ∃ registered ⊆ b.paths e.config.tempDir (stagingId e.staged),
          Files.Spares e.hosted.site.directory registered e.hosted.machine.files
              e'.hosted.machine.files
            ∧ ∀ path ∈ registered,
              e'.hosted.machine.files.regularAt? e.hosted.site.directory path = none)
    ∧ (∀ (e : Engine) (r : Fragment.Request), e.find r.language.toolchain = none →
      ∃ result e', e.execute r = some (result, e') ∧ e'.hosted = e.hosted)
    ∧ ∀ (e : Engine) (code tag cellId : Text), Language.ofTag? tag = none →
      e.executeTagged code tag cellId = some (.error (.unknownLanguage tag), e)
  := by
  refine ⟨?_, ?_, ?_, ?_⟩
  · intro b config tool id code cellId here files s steps
    have keeps := (b.plan_staged config id code cellId tool).keeps steps
    refine ⟨keeps.own, keeps.spares, ?_, ?_⟩
    · intro s' step
      apply keeps.spares_step step
    · intro result done
      apply keeps.clean done
  · intro e r b own sound confined
    apply execute_tidy own sound confined
  · intro e r missing
    apply execute_of_find_none missing
  · intro e code tag cellId unknown
    simp only [executeTagged, unknown]

/-- A program that leaves a report. -/
def reporter : Host.Behaviour :=
  .ask (.openFile "/tmp/polycell_ts_00000000000000000000000000000000_result.json".toList .writing)
    fun
    | .ok file => .ask (.write file "\x7b\"status\": \"ok\", \"result\": \"2\"\x7d".toList) fun _ => .ended 0
    | .error _ => .ended 1

/-- An engine whose runtime of typed scripts is the reporter. -/
def reporting : Engine :=
  .create { tempDir := "/tmp".toList } (.fixed { typescript := some "/reporter".toList }) {}
    { files := ({} : Files).put ["reporter".toList] (.program "reporter".toList)
      programs := fun _ _ _ => reporter }

/-- The reporter's value comes out, and its file is gone. -/
theorem staging_tidy_reporting :
  (reporting.execute ⟨"1 + 1".toList, "c1".toList, .typescript⟩).map Prod.fst
      = some (.ok "c1".toList (some "2".toList) [] [])
    ∧ (∃ s : Plan.Stage CellResult, s.plan = .done (.ok "c1".toList (some "2".toList) [] [])
      ∧ s.registered ⊆ Backend.typed.paths "/tmp".toList (stagingId 0)
      ∧ ∀ path ∈ s.registered, s.files.regularAt? [] path = none)
    ∧ (∃ result e', reporting.execute ⟨"1 + 1".toList, "c1".toList, .typescript⟩ = some (result, e')
      ∧ ∃ registered ⊆ Backend.typed.paths "/tmp".toList (stagingId 0),
        Files.Spares [] registered reporting.hosted.machine.files e'.hosted.machine.files
          ∧ ∀ path ∈ registered, e'.hosted.machine.files.regularAt? [] path = none)
    ∧ (∃ result e', reporting.execute ⟨"1 + 1".toList, "c1".toList, .rust⟩ = some (result, e')
      ∧ e'.hosted = reporting.hosted)
    ∧ reporting.executeTagged "1 + 1".toList "cobol".toList "c1".toList
      = some (.error (.unknownLanguage "cobol".toList), reporting)
  := by
  have sound : reporting.hosted.machine.files.Sound := by decide +kernel
  have confined : (Backend.typed.plan reporting.config (reporting.find .typescript) (stagingId 0)
      "1 + 1".toList "c1".toList).Confined reporting.hosted.site
        (Backend.typed.paths "/tmp".toList (stagingId 0)) reporting.hosted.machine := by
    decide +kernel
  obtain ⟨everywhere, onMachine, withoutTool, untagged⟩ := staging_tidy
  refine ⟨by decide +kernel, ?_, ?_, ?_, ?_⟩
  · obtain ⟨registered, steps⟩ := Plan.perform_steps sound confined []
    obtain ⟨own, -, -, clean⟩ := everywhere .typed reporting.config (reporting.find .typescript)
      (stagingId 0) "1 + 1".toList "c1".toList [] _ _ steps
    have value : ((Backend.typed.plan reporting.config (reporting.find .typescript) (stagingId 0)
        "1 + 1".toList "c1".toList).perform reporting.hosted.site reporting.hosted.machine).1
          = .ok "c1".toList (some "2".toList) [] [] := by
      decide +kernel
    exact ⟨_, congrArg Plan.done value, own, clean _ rfl⟩
  · exact onMachine reporting ⟨"1 + 1".toList, "c1".toList, .typescript⟩ .typed rfl sound confined
  · exact withoutTool reporting ⟨"1 + 1".toList, "c1".toList, .rust⟩ (by decide +kernel)
  · exact untagged reporting _ _ _ (by decide +kernel)

end Engine

end NotebookEngine
