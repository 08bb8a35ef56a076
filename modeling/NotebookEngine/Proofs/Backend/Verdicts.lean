import NotebookEngine.Backend.Scripted
import NotebookEngine.Proofs.Backend.Outcomes
import NotebookEngine.Proofs.Result.Reports

/-!
# Verdicts on scripts

A run of a script has one verdict (`Scripted.Verdict`), whatever the host answers and whatever stands
in the result file. The dialects differ in what counts first: a plain script that did not exit with
code zero has failed whatever it reports, and a typed script whose time was not over is judged by its
report, if there is one, however it ended (`Scripted.Account.Follows`). The result is what the verdict
says, with the streams of the script as they are (`Scripted.verdicts`).
-/

namespace NotebookEngine

namespace Scripted

open Plan (Exchange)
open Script (Dialect)

/-! ### What a dialogue tells -/

/-- What is told of a run: whether there is a runtime, and the answers to staging and to running the
script. -/
structure Account where
  runtime : Option Text
  staging : List (Except Host.Fault Unit)
  runs : List (Except Host.Fault ProcessOutput)

/-- The plan of running a script of a dialect. -/
def planOf (d : Dialect) (config : Config) (runtime : Option Text) (id code cellId : Text) :
    Plan CellResult :=
  match d with
  | .plain => plainPlan config runtime id code cellId
  | .typed => typedPlan config runtime id code cellId

/-- The names of the files of a run. -/
def staging (d : Dialect) (config : Config) (id : Text) : Staging :=
  match d with
  | .plain => ⟨config.tempDir, "js".toList, id, []⟩
  | .typed => ⟨config.tempDir, "ts".toList, id, []⟩

/-- The file in which the report is left. -/
def resultPath (d : Dialect) (config : Config) (id : Text) : Text :=
  (staging d config id).path "_result.json".toList

/-- The command that runs the script. -/
def runStep (d : Dialect) (config : Config) (runtime id : Text) : Command :=
  match d with
  | .plain => ⟨runtime, [(staging d config id).path "_executor.js".toList]⟩
  | .typed => ⟨runtime, ["run".toList, (staging d config id).path ".ts".toList]⟩

/-- What a dialogue tells of a run. -/
def account (d : Dialect) (config : Config) (runtime : Option Text) (id : Text)
    (xs : List Exchange) : Account where
  runtime := runtime
  staging := Plan.changes xs
  runs := match runtime with
    | none => []
    | some runtime => Plan.endings (runStep d config runtime id) xs

/-- The report in the result file, if the file can be read and holds one. -/
def reported (file : Except Host.Fault Text) : Option Report :=
  file.toOption.bind Report.ofText?

/-! ### Verdicts -/

/-- What can be said of a run. -/
inductive Verdict where
  /-- There is no runtime. -/
  | withoutRuntime
  /-- The host refuses to stage the script or to start the process. -/
  | refused
  | timedOut
  | notRun
  | notCompiled
  /-- The script exits with code zero and leaves no report. -/
  | unreported
  | value (value : Option Text)
  | thrown (thrown : Thrown)

/-- The script has ended in a way in which its report counts. -/
def Account.Follows (a : Account) (d : Dialect) : Prop :=
  ∃ output, .ok output ∈ a.runs ∧
    match d with
    | .plain => output.ending = .exited (.code 0)
    | .typed => output.ending ≠ .timedOut

/-- The script has ended in time, but not with exit code zero. -/
def Account.Fails (a : Account) : Prop :=
  ∃ output, .ok output ∈ a.runs ∧ output.ending ≠ .timedOut ∧ output.ending ≠ .exited (.code 0)

/-- When a verdict arises. -/
def Verdict.Arises (d : Dialect) (a : Account) (report : Option Report) : Verdict → Prop
  | .withoutRuntime => a.runtime = none
  | .refused => (∃ fault, .error fault ∈ a.staging) ∨ ∃ fault, .error fault ∈ a.runs
  | .timedOut => ∃ output, .ok output ∈ a.runs ∧ output.ending = .timedOut
  | .notRun => d = .plain ∧ a.Fails
  | .notCompiled => d = .typed ∧ a.Fails ∧ report = none
  | .unreported =>
    (∃ output, .ok output ∈ a.runs ∧ output.ending = .exited (.code 0)) ∧ report = none
  | .value v => a.Follows d ∧ report = some (.ok v)
  | .thrown t => a.Follows d ∧ report = some (.error t)

/-- How a verdict shows in a result. -/
def Verdict.Shows (r : CellResult) : Verdict → Prop
  | .withoutRuntime => r.FailsAs .toolchainNotFound
  | .refused =>
    r.FailsAs .executionError ∧ ∃ fault, r.failure = some (EngineError.io fault).failure
  | .timedOut => r.FailsAs .runtimeError
  | .notRun => r.FailsAs .runtimeError
  | .notCompiled => r.FailsAs .compilationError
  | .unreported => r.FailsAs .executionError
  | .value v => r.Succeeds v
  | .thrown t =>
    r.FailsAs .runtimeError ∧ r.failure = some ⟨.runtimeError, t.name, t.message, t.stack⟩

/-- The result has the streams of the script as they are, and empty ones if the script was not run. -/
structure Account.Quoted (a : Account) (r : CellResult) : Prop where
  run : ∀ output, .ok output ∈ a.runs → r.stdout = output.stdout ∧ r.stderr = output.stderr
  notRun : (∀ output, .ok output ∉ a.runs) → r.stdout = [] ∧ r.stderr = []

/-! ### How a run goes -/

/-- The result of a script that was run, given its report. -/
def judged (d : Dialect) (config : Config) (cellId : Text) (output : ProcessOutput)
    (report : Option Report) : CellResult :=
  match d with
  | .plain =>
    if output.isSuccess then plainResult cellId output report
    else notRun cellId config.runTimeout output
  | .typed =>
    match output.ending with
    | .timedOut => timedOut cellId config.runTimeout output
    | .exited _ => typedResult cellId output report

/-- How a run with a runtime goes: what is told of it, and its result, given the result file. -/
inductive Goes (d : Dialect) (config : Config) (cellId : Text) (file : Except Host.Fault Text) :
    Account → CellResult → Prop
  | notStaged {runtime : Text} {staging : List (Except Host.Fault Unit)} {fault : Host.Fault}
    (refused : .error fault ∈ staging) :
    Goes d config cellId file ⟨some runtime, staging, []⟩
      (.failedEarly cellId (EngineError.io fault).failure)
  | notStarted {runtime : Text} {staging : List (Except Host.Fault Unit)} {fault : Host.Fault} :
    Goes d config cellId file ⟨some runtime, staging, [.error fault]⟩
      (.failedEarly cellId (EngineError.io fault).failure)
  | ran {runtime : Text} {staging : List (Except Host.Fault Unit)} {output : ProcessOutput}
    (staged : ∀ answer ∈ staging, answer = .ok ()) :
    Goes d config cellId file ⟨some runtime, staging, [.ok output]⟩
      (judged d config cellId output (reported file))

section

variable {d : Dialect} {config : Config} {runtime id code cellId : Text} {xs : List Exchange}
  {r : CellResult} {file : Except Host.Fault Text}

/-- The script has been staged. -/
def begun (d : Dialect) (config : Config) (id code : Text) : List Exchange :=
  let result := resultPath d config id
  let path (suffix : String) := (staging d config id).path suffix.toList
  match d with
  | .plain =>
    [.makeDirectory config.tempDir (.ok ()),
      .write (path "_user.js") (Script.addReturn .plain code) (.ok ()),
      .makeDirectory config.tempDir (.ok ()),
      .write (path "_executor.js")
        (Script.executor (path "_user.js") result config.inspectDepth) (.ok ())]
  | .typed =>
    [.makeDirectory config.tempDir (.ok ()),
      .write (path ".ts") (Script.typedModule code result config.inspectDepth) (.ok ())]

/-- What is told once the script has been staged and run, or could not be started. -/
theorem account_begun (limit : Nat) (answer : Except Host.Fault ProcessOutput)
    (last : Option (Except Host.Fault Text)) :
  ∃ staging, (∀ answer ∈ staging, answer = .ok ())
    ∧ account d config (some runtime) id (begun d config id code
        ++ .run (runStep d config runtime id) limit answer
          :: last.toList.map (.read (resultPath d config id)))
      = ⟨some runtime, staging, [answer]⟩
  := by
  cases d with
  | plain =>
      use List.replicate 4 (.ok ()), fun _ => List.eq_of_mem_replicate
      cases last <;> simp [account, begun, Plan.changes, Plan.endings, List.replicate]
  | typed =>
      use List.replicate 2 (.ok ()), fun _ => List.eq_of_mem_replicate
      cases last <;> simp [account, begun, Plan.changes, Plan.endings, List.replicate]

/-- The work that is left once the script was run. -/
def judge (d : Dialect) (config : Config) (id cellId : Text) (output : ProcessOutput) :
    Work CellResult :=
  match d with
  | .plain => do
    if !output.isSuccess then return notRun cellId config.runTimeout output
    return plainResult cellId output (← report? (resultPath .plain config id))
  | .typed =>
    match output.ending with
    | .timedOut => return timedOut cellId config.runTimeout output
    | .exited _ => do return typedResult cellId output (← report? (resultPath .typed config id))

/-- A report is looked for in the result file, and the result is made of it. -/
theorem dialogue_report? {path : Text} {f : Option Report → CellResult} {s t : Staging}
    {outcome : Except EngineError CellResult}
    (dialogue : (report? path >>= fun report => pure (f report) : Work CellResult).Dialogue s xs
      outcome t) :
  ∃ answer, xs = [.read path answer] ∧ outcome = .ok (f (reported answer))
  := by
  cases dialogue with
  | read answer goes =>
      cases goes
      exact ⟨answer, rfl, rfl⟩

/-- The report is looked for once at most, and not at all if it does not count. -/
theorem dialogue_judge {output : ProcessOutput} {s t : Staging} {outcome : Except EngineError CellResult}
    (dialogue : (judge d config id cellId output).Dialogue s xs outcome t) :
  ∃ last : Option (Except Host.Fault Text), xs = last.toList.map (.read (resultPath d config id))
    ∧ ∀ report, (∀ answer ∈ last, reported answer = report) →
      outcome = .ok (judged d config cellId output report)
  := by
  cases d with
  | plain =>
      unfold judge at dialogue
      unfold judged
      by_cases success : output.isSuccess = true
      case pos =>
        simp only [success, Bool.not_true, Bool.false_eq_true, ↓reduceIte] at dialogue ⊢
        obtain ⟨answer, rfl, rfl⟩ := dialogue_report? dialogue
        refine ⟨some answer, rfl, ?_⟩
        intro report same
        rw [← same answer rfl]
      case neg =>
        simp only [success, Bool.not_false, Bool.false_eq_true, ↓reduceIte] at dialogue ⊢
        obtain ⟨rfl, rfl⟩ := Work.dialogue_pure dialogue
        exact ⟨none, rfl, fun _ _ => rfl⟩
  | typed =>
      unfold judge at dialogue
      unfold judged
      cases ending : output.ending with
      | timedOut =>
          simp only [ending] at dialogue ⊢
          obtain ⟨rfl, rfl⟩ := Work.dialogue_pure dialogue
          exact ⟨none, rfl, fun _ _ => rfl⟩
      | exited status =>
          simp only [ending] at dialogue ⊢
          obtain ⟨answer, rfl, rfl⟩ := dialogue_report? dialogue
          refine ⟨some answer, rfl, ?_⟩
          intro report same
          rw [← same answer rfl]

/-- What is read in a dialogue is what is read after the script was run. -/
theorem readings_begun (limit : Nat) (answer : Except Host.Fault ProcessOutput)
    (last : Option (Except Host.Fault Text)) :
  Plan.readings (resultPath d config id) (begun d config id code
      ++ .run (runStep d config runtime id) limit answer
        :: last.toList.map (.read (resultPath d config id)))
    = last.toList
  := by
  cases d <;> cases last <;> simp [begun, Plan.readings]

/-- Every dialogue of a script with a runtime goes like this. -/
theorem goes_of_dialogue
    (dialogue : (planOf d config (some runtime) id code cellId).Dialogue xs r)
    (reads : ∀ answer ∈ Plan.readings (resultPath d config id) xs, answer = file) :
  Goes d config cellId file (account d config (some runtime) id xs) r
  := by
  have goesOn {ys : List Exchange} {s t : Staging} {outcome : Except EngineError CellResult}
      (shape : xs = begun d config id code ++ ys)
      (ran : (Work.execute (runStep d config runtime id) config.runTimeout
        >>= judge d config id cellId).Dialogue s ys outcome t)
      (ends : outcome = .ok r ∨ ∃ e, outcome = .error e ∧ r = .failedEarly cellId e.failure) :
      Goes d config cellId file (account d config (some runtime) id xs) r := by
    subst shape
    rcases Work.dialogue_execute ran with ⟨fault, rfl, rfl⟩ | ⟨output, zs, rfl, ended⟩
    · obtain ⟨staging, -, told⟩ := @account_begun d config runtime id code
        config.runTimeout (.error fault) none
      rw [Compiled.eq_failedEarly ends]
      exact told ▸ .notStarted
    · obtain ⟨last, rfl, judges⟩ := dialogue_judge ended
      obtain ⟨staging, staged, told⟩ := @account_begun d config runtime id code
        config.runTimeout (.ok output) last
      rw [readings_begun] at reads
      have outcome_eq := judges (reported file)
        fun answer stands => congrArg reported (reads answer (Option.mem_toList.mpr stands))
      obtain rfl : r = judged d config cellId output (reported file) := by
        rcases ends with same | ⟨e, same, -⟩
        · rw [outcome_eq] at same
          cases same
          rfl
        · rw [outcome_eq] at same
          nomatch same
      rw [told]
      exact .ran staged
  cases d with
  | plain =>
      obtain ⟨outcome, t, worked, ends⟩ := Work.dialogue_run dialogue
      have staged := Work.dialogue_reserve worked
      rcases Work.dialogue_write staged with ⟨fault, rfl, rfl⟩ | ⟨fault, rfl, rfl⟩ | ⟨ys, rfl, begun⟩
      · rw [Compiled.eq_failedEarly ends]
        exact .notStaged (List.mem_singleton_self _)
      · rw [Compiled.eq_failedEarly ends]
        exact .notStaged (List.mem_of_mem_getLast? rfl)
      rcases Work.dialogue_write begun with ⟨fault, rfl, rfl⟩ | ⟨fault, rfl, rfl⟩ | ⟨ys, rfl, ran⟩
      · rw [Compiled.eq_failedEarly ends]
        exact .notStaged (List.mem_of_mem_getLast? rfl)
      · rw [Compiled.eq_failedEarly ends]
        exact .notStaged (List.mem_of_mem_getLast? rfl)
      exact goesOn rfl ran ends
  | typed =>
      obtain ⟨outcome, t, worked, ends⟩ := Work.dialogue_run dialogue
      have staged := Work.dialogue_reserve worked
      rcases Work.dialogue_write staged with ⟨fault, rfl, rfl⟩ | ⟨fault, rfl, rfl⟩ | ⟨ys, rfl, ran⟩
      · rw [Compiled.eq_failedEarly ends]
        exact .notStaged (List.mem_singleton_self _)
      · rw [Compiled.eq_failedEarly ends]
        exact .notStaged (List.mem_of_mem_getLast? rfl)
      exact goesOn rfl ran ends

/-! ### Results of scripts that were run -/

variable {output : ProcessOutput} {report : Option Report}

theorem judged_timedOut (late : output.ending = .timedOut) :
  (judged d config cellId output report).FailsAs .runtimeError
  := by
  cases d with
  | plain =>
      have fails : output.isSuccess = false := by rw [ProcessOutput.isSuccess, late]; rfl
      simp only [judged, fails, Bool.false_eq_true, ↓reduceIte]
      exact ⟨rfl, rfl, _, rfl, rfl⟩
  | typed =>
      simp only [judged, late]
      exact ⟨rfl, rfl, _, rfl, rfl⟩

/-- A script that exits with code zero is judged by its report. -/
theorem judged_success (success : output.ending = .exited (.code 0)) :
  judged d config cellId output report
    = match report with
      | some report => report.result cellId output
      | none => Report.missing cellId output
  := by
  have succeeds := (Compiled.isSuccess_iff output).mpr success
  cases d <;> cases report <;> simp [judged, success, succeeds, plainResult, typedResult]

theorem judged_notRun (fails : output.ending ≠ .exited (.code 0)) :
  (judged .plain config cellId output report).FailsAs .runtimeError
  := by
  have fails := mt (Compiled.isSuccess_iff output).mp fails
  simp only [judged, fails, Bool.false_eq_true, ↓reduceIte]
  exact ⟨rfl, rfl, _, rfl, rfl⟩

/-- A typed script that fails in time is judged by its report too, and was not compiled if it left
none. -/
theorem judged_typed (early : output.ending ≠ .timedOut) (fails : output.ending ≠ .exited (.code 0)) :
  judged .typed config cellId output report
    = match report with
      | some report => report.result cellId output
      | none => notCompiled cellId output
  := by
  have fails := mt (Compiled.isSuccess_iff output).mp fails
  cases ending : output.ending with
  | timedOut => exact absurd ending early
  | exited status => cases report <;> simp [judged, ending, fails, typedResult]

theorem Report.streams_result (report : Report) :
  (report.result cellId output).stdout = output.stdout
    ∧ (report.result cellId output).stderr = output.stderr
  := by
  cases report <;> exact ⟨rfl, rfl⟩

/-- The streams of a script that was run are those of its result. -/
theorem judged_streams (d : Dialect) (config : Config) (cellId : Text) (output : ProcessOutput)
    (report : Option Report) :
  (judged d config cellId output report).stdout = output.stdout
    ∧ (judged d config cellId output report).stderr = output.stderr
  := by
  unfold judged plainResult typedResult
  repeat' split
  all_goals first
    | exact ⟨rfl, rfl⟩
    | apply Report.streams_result

/-! ### The verdict on a run -/

/-- On a script that was run there is one verdict, and it shows in the result. -/
theorem judged_classified {staging : List (Except Host.Fault Unit)}
    (staged : ∀ answer ∈ staging, answer = .ok ()) (report : Option Report) :
  ∃ v : Verdict, v.Shows (judged d config cellId output report)
    ∧ ∀ v' : Verdict, v'.Arises d ⟨some runtime, staging, [.ok output]⟩ report ↔ v' = v
  := by
  have noFault : ∀ fault, .error fault ∉ staging := by
    intro fault stands
    nomatch staged _ stands
  by_cases late : output.ending = .timedOut
  case pos =>
    refine ⟨.timedOut, judged_timedOut late, ?_⟩
    intro v
    cases v <;> cases d <;>
      simp [Verdict.Arises, Account.Fails, Account.Follows, noFault, late]
  by_cases success : output.ending = .exited (.code 0)
  case pos =>
    rw [judged_success success]
    rcases report with _ | value | thrown
    · refine ⟨.unreported, ⟨rfl, rfl, _, rfl, rfl⟩, ?_⟩
      intro v
      cases v <;> cases d <;>
        simp [Verdict.Arises, Account.Fails, Account.Follows, noFault, success]
    · refine ⟨.value value, ⟨rfl, rfl, rfl⟩, ?_⟩
      intro v
      cases v <;> cases d <;>
        simp [Verdict.Arises, Account.Fails, Account.Follows, noFault, success, @eq_comm _ value]
    · refine ⟨.thrown thrown, ⟨⟨rfl, rfl, _, rfl, rfl⟩, rfl⟩, ?_⟩
      intro v
      cases v <;> cases d <;>
        simp [Verdict.Arises, Account.Fails, Account.Follows, noFault, success, @eq_comm _ thrown]
  cases d with
  | plain =>
      refine ⟨.notRun, judged_notRun success, ?_⟩
      intro v
      cases v <;>
        simp [Verdict.Arises, Account.Fails, Account.Follows, noFault, late, success]
  | typed =>
      rw [judged_typed late success]
      rcases report with _ | value | thrown
      · refine ⟨.notCompiled, ⟨rfl, rfl, _, rfl, rfl⟩, ?_⟩
        intro v
        cases v <;>
          simp [Verdict.Arises, Account.Fails, Account.Follows, noFault, late, success]
      · refine ⟨.value value, ⟨rfl, rfl, rfl⟩, ?_⟩
        intro v
        cases v <;>
          simp [Verdict.Arises, Account.Fails, Account.Follows, noFault, late, success, @eq_comm _ value]
      · refine ⟨.thrown thrown, ⟨⟨rfl, rfl, _, rfl, rfl⟩, rfl⟩, ?_⟩
        intro v
        cases v <;>
          simp [Verdict.Arises, Account.Fails, Account.Follows, noFault, late, success, @eq_comm _ thrown]

/-- The result of a script that was run is made of how it ended and of its report. -/
theorem Goes.eq_judged {a : Account} (goes : Goes d config cellId file a r)
    (ran : .ok output ∈ a.runs) :
  r = judged d config cellId output (reported file)
  := by
  cases goes with
  | notStaged => nomatch ran
  | notStarted => nomatch List.mem_singleton.mp ran
  | ran =>
      cases List.mem_singleton.mp ran
      rfl

/-- Without a runtime nothing is asked of the host. -/
theorem classified_withoutRuntime (report : Option Report)
    (dialogue : (planOf d config none id code cellId).Dialogue xs r) :
  (∃ v : Verdict, v.Shows r
      ∧ ∀ v' : Verdict, v'.Arises d (account d config none id xs) report ↔ v' = v)
    ∧ (account d config none id xs).Quoted r
  := by
  cases d <;> cases dialogue
  all_goals
    refine ⟨⟨.withoutRuntime, ⟨rfl, rfl, _, rfl, rfl⟩, ?_⟩, ?_, fun _ => ⟨rfl, rfl⟩⟩
    · intro v
      cases v <;> simp [Verdict.Arises, Account.Fails, Account.Follows, account, Plan.changes]
    · intro output stands
      cases stands

/-- On a run with a runtime there is one verdict, and it shows in the result. -/
theorem Goes.classified {a : Account} (goes : Goes d config cellId file a r) :
  (∃ v : Verdict, v.Shows r ∧ ∀ v' : Verdict, v'.Arises d a (reported file) ↔ v' = v) ∧ a.Quoted r
  := by
  cases goes with
  | @notStaged _ staging fault refused =>
      refine ⟨⟨.refused, ⟨⟨rfl, rfl, _, rfl, rfl⟩, _, rfl⟩, ?_⟩, nofun, fun _ => ⟨rfl, rfl⟩⟩
      have some : ∃ fault, Except.error fault ∈ staging := ⟨fault, refused⟩
      intro v
      cases v <;> simp [Verdict.Arises, Account.Fails, Account.Follows, some]
  | notStarted =>
      refine ⟨⟨.refused, ⟨⟨rfl, rfl, _, rfl, rfl⟩, _, rfl⟩, ?_⟩, by simp, fun _ => ⟨rfl, rfl⟩⟩
      intro v
      cases v <;> simp [Verdict.Arises, Account.Fails, Account.Follows]
  | @ran _ staging output staged =>
      have streams := judged_streams d config cellId output (reported file)
      refine ⟨judged_classified staged _, ?_, ?_⟩
      · intro other stands
        cases List.mem_singleton.mp stands
        exact streams
      · intro none
        exact absurd (List.mem_singleton_self _) (none output)

end

/-- The verdicts on a script. Whatever the host answers, the plan of the script comes to a result. In
every dialogue of the plan exactly one verdict arises, whatever the result file holds or whether it can
be read; the result shows it, and has the streams of the script as they are. And a file that holds an
object which tells a report, and nothing else but a gap, has that report in it. -/
theorem verdicts (d : Dialect) (config : Config) (runtime : Option Text) (id code cellId : Text) :
  (∀ host : Plan.Answers, ∃ xs r, (planOf d config runtime id code cellId).Dialogue xs r
      ∧ ∀ x ∈ xs, x.IsFrom host)
    ∧ (∀ site m, ∃ xs, (planOf d config runtime id code cellId).Dialogue xs
      ((planOf d config runtime id code cellId).perform site m).1)
    ∧ (∀ xs r file, (planOf d config runtime id code cellId).Dialogue xs r →
      (∀ answer ∈ Plan.readings (resultPath d config id) xs, answer = file) →
        (∃! v : Verdict, v.Arises d (account d config runtime id xs) (reported file))
          ∧ (∀ v : Verdict, v.Arises d (account d config runtime id xs) (reported file) → v.Shows r)
          ∧ (account d config runtime id xs).Quoted r)
    ∧ ∀ ms report t gap, Report.Told ms report → Json.Written Json.maxDepth (.object ms) t →
      Json.Gap gap → reported (.ok (t ++ gap)) = some report
  := by
  refine ⟨Plan.exists_dialogue _, Plan.dialogue_perform _, ?_, ?_⟩
  case refine_1 =>
    intro xs r file dialogue reads
    obtain ⟨⟨v, shows, arises⟩, quoted⟩ :
        (∃ v : Verdict, v.Shows r ∧ ∀ v' : Verdict,
          v'.Arises d (account d config runtime id xs) (reported file) ↔ v' = v)
          ∧ (account d config runtime id xs).Quoted r := by
      cases runtime with
      | some runtime => exact (goes_of_dialogue dialogue reads).classified
      | none => exact classified_withoutRuntime _ dialogue
    refine ⟨⟨v, (arises v).mpr rfl, fun v' => (arises v').mp⟩, ?_, quoted⟩
    intro v' stands
    rwa [(arises v').mp stands]
  case refine_2 =>
    intro ms report t gap told written blank
    exact told.ofText? written blank

end Scripted

end NotebookEngine
