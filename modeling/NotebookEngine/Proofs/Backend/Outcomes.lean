import Mathlib.Logic.ExistsUnique
import NotebookEngine.Backend.Compiled
import NotebookEngine.Proofs.Backend.Dialogue

/-!
# Outcomes of compiled fragments

A run of a compiled fragment has one of seven outcomes (`Compiled.Outcome`). Each arises under a
condition on the dialogue with the host, and shows in the result. In every dialogue exactly one
outcome arises, and it is the one that the result shows (`Compiled.taxonomy`); and the result has the
streams of the program and its value as they are (`Compiled.Outcome.Tells`).
-/

namespace NotebookEngine

namespace Compiled

open Plan (Exchange)

/-! ### What a dialogue tells -/

/-- What is told of a run: whether there is a compiler, whether the program is to leave a value, and
the answers to staging, to compiling, to running the binary and to reading the value. -/
structure Account where
  compiler : Option Text
  captures : Bool
  staging : List (Except Host.Fault Unit)
  compilations : List (Except Host.Fault ProcessOutput)
  runs : List (Except Host.Fault ProcessOutput)
  texts : List (Except Host.Fault Text)

/-- The names of the files of a run. -/
def staging (config : Config) (id : Text) : Staging :=
  ⟨config.tempDir, "rust".toList, id, []⟩

/-- The command that compiles the program of a run. -/
def compileStep (config : Config) (compiler id : Text) : Command :=
  compileCommand compiler config.rustEdition ((staging config id).path ".rs".toList)
    ((staging config id).path "".toList)

/-- The command that runs the binary of a run. -/
def runStep (config : Config) (id : Text) : Command :=
  ⟨(staging config id).path "".toList, []⟩

/-- What a dialogue tells of a run. -/
def account (config : Config) (compiler : Option Text) (id code : Text) (xs : List Exchange) :
    Account where
  compiler := compiler
  captures := (Fragment.split code).capturesValue
  staging := Plan.changes xs
  compilations := match compiler with
    | none => []
    | some compiler => Plan.endings (compileStep config compiler id) xs
  runs := Plan.endings (runStep config id) xs
  texts := Plan.readings ((staging config id).path "_result.txt".toList) xs

/-- The compile step has ended with exit code zero. -/
def Account.Compiles (a : Account) : Prop :=
  ∃ output, .ok output ∈ a.compilations ∧ output.ending = .exited (.code 0)

/-- The run of the binary has ended with exit code zero. -/
def Account.Runs (a : Account) : Prop :=
  ∃ output, .ok output ∈ a.runs ∧ output.ending = .exited (.code 0)

/-! ### Outcomes -/

/-- What can come of a run. -/
inductive Outcome where
  /-- There is no compiler. -/
  | withoutCompiler
  /-- The host refuses to stage the program or to start a process. -/
  | refused
  | notCompiled
  | notRun
  | withoutValue
  | withValue
  /-- The value is not there, or cannot be read. -/
  | unproduced
deriving DecidableEq, Repr

/-- When an outcome arises. -/
def Outcome.Arises (a : Account) : Outcome → Prop
  | .withoutCompiler => a.compiler = none
  | .refused =>
    (∃ fault, .error fault ∈ a.staging) ∨ (∃ fault, .error fault ∈ a.compilations)
      ∨ ∃ fault, .error fault ∈ a.runs
  | .notCompiled => ∃ output, .ok output ∈ a.compilations ∧ output.ending ≠ .exited (.code 0)
  | .notRun => a.Compiles ∧ ∃ output, .ok output ∈ a.runs ∧ output.ending ≠ .exited (.code 0)
  | .withoutValue =>
    a.Compiles ∧ a.Runs
      ∧ (a.captures = false ∨ ∃ text, .ok text ∈ a.texts ∧ Text.trim text = ['(', ')'])
  | .withValue =>
    a.Compiles ∧ a.Runs ∧ a.captures = true
      ∧ ∃ text, .ok text ∈ a.texts ∧ Text.trim text ≠ ['(', ')']
  | .unproduced =>
    a.Compiles ∧ a.Runs ∧ a.captures = true ∧ ∃ fault, .error fault ∈ a.texts

end Compiled

/-- The result is a failure of a kind. -/
structure CellResult.FailsAs (r : CellResult) (kind : FailureKind) : Prop where
  status : r.status = .error
  value : r.value = none
  failure : ∃ f, r.failure = some f ∧ f.kind = kind

/-- The result is a success with a value or without. -/
structure CellResult.Succeeds (r : CellResult) (value : Option Text) : Prop where
  status : r.status = .ok
  value : r.value = value
  failure : r.failure = none

namespace Compiled

open Plan (Exchange)

/-- The failure of a run that left no value. -/
def noResult : Failure :=
  .ofKind .executionError "No result produced".toList []

/-- How an outcome shows in a result. -/
def Outcome.Shows (r : CellResult) : Outcome → Prop
  | .withoutCompiler => r.FailsAs .toolchainNotFound
  | .refused =>
    r.FailsAs .executionError ∧ ∃ fault, r.failure = some (EngineError.io fault).failure
  | .notCompiled => r.FailsAs .compilationError
  | .notRun => r.FailsAs .runtimeError
  | .withoutValue => r.Succeeds none
  | .withValue => ∃ value, r.Succeeds (some value)
  | .unproduced => r.FailsAs .executionError ∧ r.failure = some noResult

/-- The result has the streams of the program as they are. -/
def Account.Quoted (a : Account) (r : CellResult) : Prop :=
  ∀ output, .ok output ∈ a.runs → r.stdout = output.stdout ∧ r.stderr = output.stderr

/-- What is true of a dialogue and a result of this outcome. -/
def Outcome.Tells (a : Account) (xs : List Exchange) (r : CellResult) : Outcome → Prop
  | .withoutCompiler => xs = [] ∧ r.stdout = [] ∧ r.stderr = []
  | .refused => r.stdout = [] ∧ r.stderr = []
  | .notCompiled =>
    a.runs = [] ∧ r.stdout = [] ∧ ∃ f, r.failure = some f ∧ r.stderr = f.traceback
  | .notRun => a.Quoted r ∧ ∃ f, r.failure = some f ∧ f.traceback ≠ []
  | .withoutValue => a.Quoted r
  | .withValue => a.Quoted r ∧ ∃ text, .ok text ∈ a.texts ∧ r.value = some (Text.trim text)
  | .unproduced => a.Quoted r

/-- The outcome that a result can show. -/
def Outcome.shown (r : CellResult) : Outcome :=
  match r.failure with
  | none => if r.value.isSome then .withValue else .withoutValue
  | some f =>
    match f.kind with
    | .toolchainNotFound => .withoutCompiler
    | .compilationError => .notCompiled
    | .runtimeError => .notRun
    | _ => if f = noResult then .unproduced else .refused

theorem failure_io_ne_noResult (fault : Host.Fault) :
  (EngineError.io fault).failure ≠ noResult
  := by
  intro same
  have first : some 'I' = some 'N' := congrArg (fun f => f.message.head?) same
  contradiction

/-- A result shows one outcome at most. -/
theorem Outcome.Shows.eq_shown {r : CellResult} {o : Outcome} (shows : o.Shows r) :
  o = Outcome.shown r
  := by
  cases o with
  | withoutCompiler | notCompiled | notRun =>
      obtain ⟨-, -, f, failure, kind⟩ := shows
      simp only [shown, failure, kind]
  | refused =>
      obtain ⟨-, fault, failure⟩ := shows
      simp only [shown, failure, failure_io_ne_noResult, ↓reduceIte]
      rfl
  | unproduced =>
      obtain ⟨-, failure⟩ := shows
      simp only [shown, failure]
      rfl
  | withoutValue =>
      obtain ⟨-, value, failure⟩ := shows
      simp [shown, failure, value]
  | withValue =>
      obtain ⟨_, -, value, failure⟩ := shows
      simp [shown, failure, value]

/-! ### How a run goes -/

section

variable (config : Config) (compiler id code cellId : Text)

/-- The program has been staged. -/
def begun : List Exchange :=
  [.makeDirectory config.tempDir (.ok ()),
    .write ((staging config id).path ".rs".toList)
      ((Fragment.split code).program ((staging config id).path "_result.txt".toList)) (.ok ())]

/-- The answer to the compile step. -/
def compiling (answer : Except Host.Fault ProcessOutput) : Exchange :=
  .run (compileStep config compiler id) config.compileTimeout answer

/-- The answer to the run of the binary. -/
def running (answer : Except Host.Fault ProcessOutput) : Exchange :=
  .run (runStep config id) config.runTimeout answer

/-- The answer to reading the value. -/
def reading (answer : Except Host.Fault Text) : Exchange :=
  .read ((staging config id).path "_result.txt".toList) answer

/-- How a run with a compiler goes: its dialogue with the host, and its result. -/
inductive Goes : List Exchange → CellResult → Prop
  | notMade {fault : Host.Fault} :
    Goes [.makeDirectory config.tempDir (.error fault)]
      (.failedEarly cellId (EngineError.io fault).failure)
  | notWritten {path content : Text} {fault : Host.Fault} :
    Goes [.makeDirectory config.tempDir (.ok ()), .write path content (.error fault)]
      (.failedEarly cellId (EngineError.io fault).failure)
  | notStarted {fault : Host.Fault} :
    Goes (begun config id code ++ [compiling config compiler id (.error fault)])
      (.failedEarly cellId (EngineError.io fault).failure)
  | notCompiled {output : ProcessOutput} (fails : output.ending ≠ .exited (.code 0)) :
    Goes (begun config id code ++ [compiling config compiler id (.ok output)])
      (notCompiled cellId ((staging config id).path ".rs".toList) config.compileTimeout output)
  | notLaunched {compiled : ProcessOutput} {fault : Host.Fault}
      (compiles : compiled.ending = .exited (.code 0)) :
    Goes (begun config id code
        ++ [compiling config compiler id (.ok compiled), running config id (.error fault)])
      (.failedEarly cellId (EngineError.io fault).failure)
  | notRun {compiled output : ProcessOutput} (compiles : compiled.ending = .exited (.code 0))
      (fails : output.ending ≠ .exited (.code 0)) :
    Goes (begun config id code
        ++ [compiling config compiler id (.ok compiled), running config id (.ok output)])
      (notRun cellId config.runTimeout output)
  | uncaptured {compiled output : ProcessOutput} (compiles : compiled.ending = .exited (.code 0))
      (runs : output.ending = .exited (.code 0))
      (uncaptured : (Fragment.split code).capturesValue = false) :
    Goes (begun config id code
        ++ [compiling config compiler id (.ok compiled), running config id (.ok output)])
      (.ok cellId none output.stdout output.stderr)
  | finished {compiled output : ProcessOutput} {answer : Except Host.Fault Text}
      (compiles : compiled.ending = .exited (.code 0)) (runs : output.ending = .exited (.code 0))
      (captured : (Fragment.split code).capturesValue = true) :
    Goes (begun config id code
        ++ [compiling config compiler id (.ok compiled), running config id (.ok output),
          reading config id answer])
      (finished cellId output answer.toOption)

end

section

variable {config : Config} {compiler id code cellId : Text} {xs : List Exchange} {r : CellResult}

theorem isSuccess_iff (output : ProcessOutput) :
  output.isSuccess = true ↔ output.ending = .exited (.code 0)
  := by
  unfold ProcessOutput.isSuccess Ending.isSuccess
  split
  case h_1 same => simp [same]
  case h_2 other => simpa using other

/-- Compiling and running are different commands. -/
theorem compileStep_ne_runStep (config : Config) (compiler id : Text) :
  compileStep config compiler id ≠ runStep config id
  := by
  intro same
  have arguments := congrArg Command.arguments same
  contradiction

theorem eq_failedEarly {fault : Host.Fault}
    (ends : Except.error (EngineError.io fault) = Except.ok r
      ∨ ∃ e, Except.error (EngineError.io fault) = (Except.error e : Except EngineError CellResult)
        ∧ r = .failedEarly cellId e.failure) :
  r = .failedEarly cellId (EngineError.io fault).failure
  := by
  rcases ends with same | ⟨e, same, rfl⟩
  · nomatch same
  · cases same
    rfl

theorem eq_of_pure {result : CellResult} {s t : Staging} {outcome : Except EngineError CellResult}
    (dialogue : (pure result : Work CellResult).Dialogue s xs outcome t)
    (ends : outcome = .ok r ∨ ∃ e, outcome = .error e ∧ r = .failedEarly cellId e.failure) :
  xs = [] ∧ r = result
  := by
  obtain ⟨rfl, rfl⟩ := Work.dialogue_pure dialogue
  rcases ends with same | ⟨e, same, -⟩
  · cases same
    exact ⟨rfl, rfl⟩
  · nomatch same

/-- Every dialogue of a run with a compiler is one of these. -/
theorem goes_of_dialogue (dialogue : (plan config (some compiler) id code cellId).Dialogue xs r) :
  Goes config compiler id code cellId xs r
  := by
  obtain ⟨outcome, t, worked, ends⟩ := Work.dialogue_run dialogue
  have staged := Work.dialogue_reserve (Work.dialogue_reserve worked)
  rcases Work.dialogue_write staged with ⟨fault, rfl, rfl⟩ | ⟨fault, rfl, rfl⟩ | ⟨ys, rfl, begun⟩
  · rw [eq_failedEarly ends]
    exact .notMade
  · rw [eq_failedEarly ends]
    exact .notWritten
  rcases Work.dialogue_execute begun with ⟨fault, rfl, rfl⟩ | ⟨compiled, zs, rfl, compiles⟩
  · rw [eq_failedEarly ends]
    exact .notStarted
  split at compiles
  case isTrue fails =>
    obtain ⟨rfl, rfl⟩ := eq_of_pure compiles ends
    rw [Bool.not_eq_true', ← Bool.not_eq_true, isSuccess_iff] at fails
    exact .notCompiled fails
  case isFalse success =>
    rw [Bool.not_eq_true, Bool.not_eq_false', isSuccess_iff] at success
    rcases Work.dialogue_execute compiles with ⟨fault, rfl, rfl⟩ | ⟨output, zs, rfl, runs⟩
    · rw [eq_failedEarly ends]
      exact .notLaunched success
    split at runs
    case isTrue fails =>
      obtain ⟨rfl, rfl⟩ := eq_of_pure runs ends
      rw [Bool.not_eq_true', ← Bool.not_eq_true, isSuccess_iff] at fails
      exact .notRun success fails
    case isFalse ran =>
      rw [Bool.not_eq_true, Bool.not_eq_false', isSuccess_iff] at ran
      split at runs
      case isTrue uncaptured =>
        obtain ⟨rfl, rfl⟩ := eq_of_pure runs ends
        exact .uncaptured success ran (by simpa using uncaptured)
      case isFalse captured =>
        obtain ⟨answer, zs, rfl, reads⟩ := Work.dialogue_read? runs
        obtain ⟨rfl, rfl⟩ := eq_of_pure reads ends
        exact .finished success ran (by simpa using captured)

/-! ### What is told of a run -/

theorem account_compiling (answer : Except Host.Fault ProcessOutput) :
  account config (some compiler) id code
      (begun config id code ++ [compiling config compiler id answer])
    = ⟨some compiler, (Fragment.split code).capturesValue, [.ok (), .ok ()], [answer], [], []⟩
  := by
  simp [account, begun, compiling, Plan.changes, Plan.endings, Plan.readings,
    compileStep_ne_runStep]

theorem account_running (compiled answer : Except Host.Fault ProcessOutput) :
  account config (some compiler) id code
      (begun config id code ++ [compiling config compiler id compiled, running config id answer])
    = ⟨some compiler, (Fragment.split code).capturesValue, [.ok (), .ok ()], [compiled], [answer],
      []⟩
  := by
  simp [account, begun, compiling, running, Plan.changes, Plan.endings, Plan.readings,
    compileStep_ne_runStep, (compileStep_ne_runStep config compiler id).symm]

theorem account_reading (compiled ran : Except Host.Fault ProcessOutput)
    (answer : Except Host.Fault Text) :
  account config (some compiler) id code
      (begun config id code ++ [compiling config compiler id compiled, running config id ran,
        reading config id answer])
    = ⟨some compiler, (Fragment.split code).capturesValue, [.ok (), .ok ()], [compiled], [ran],
      [answer]⟩
  := by
  simp [account, begun, compiling, running, reading, Plan.changes, Plan.endings, Plan.readings,
    compileStep_ne_runStep, (compileStep_ne_runStep config compiler id).symm]

/-- A trace of a run that did not succeed is never empty. -/
theorem traceOf_ne_nil (limit : Nat) (output : ProcessOutput) :
  traceOf limit output ≠ []
  := by
  unfold traceOf
  split
  case isTrue => apply Ending.describe_ne_nil
  case isFalse some =>
    intro none
    rw [none] at some
    exact some rfl

theorem quoted_singleton {compiler : Option Text} {captures : Bool}
    {staging : List (Except Host.Fault Unit)} {compilations : List (Except Host.Fault ProcessOutput)}
    {texts : List (Except Host.Fault Text)} {output : ProcessOutput} (stdout : r.stdout = output.stdout)
    (stderr : r.stderr = output.stderr) :
  Account.Quoted ⟨compiler, captures, staging, compilations, [.ok output], texts⟩ r
  := by
  intro other h
  cases List.mem_singleton.mp h
  exact ⟨stdout, stderr⟩

/-- Of a run with a compiler one outcome arises, and it shows in the result. -/
theorem Goes.classified (goes : Goes config compiler id code cellId xs r) :
  ∃ o : Outcome, o.Shows r ∧ o.Tells (account config (some compiler) id code xs) xs r
    ∧ ∀ o' : Outcome, o'.Arises (account config (some compiler) id code xs) ↔ o' = o
  := by
  cases goes with
  | notMade =>
      refine ⟨.refused, ⟨⟨rfl, rfl, _, rfl, rfl⟩, _, rfl⟩, ⟨rfl, rfl⟩, ?_⟩
      intro o
      cases o <;> simp [Outcome.Arises, account, Account.Compiles, Plan.changes, Plan.endings]
  | notWritten =>
      refine ⟨.refused, ⟨⟨rfl, rfl, _, rfl, rfl⟩, _, rfl⟩, ⟨rfl, rfl⟩, ?_⟩
      intro o
      cases o <;> simp [Outcome.Arises, account, Account.Compiles, Plan.changes, Plan.endings]
  | notStarted =>
      rw [account_compiling]
      refine ⟨.refused, ⟨⟨rfl, rfl, _, rfl, rfl⟩, _, rfl⟩, ⟨rfl, rfl⟩, ?_⟩
      intro o
      cases o <;> simp [Outcome.Arises, Account.Compiles]
  | notCompiled fails =>
      rw [account_compiling]
      refine ⟨.notCompiled, ⟨rfl, rfl, _, rfl, rfl⟩, ⟨rfl, rfl, _, rfl, rfl⟩, ?_⟩
      intro o
      cases o <;> simp [Outcome.Arises, Account.Compiles, fails]
  | notLaunched compiles =>
      rw [account_running]
      refine ⟨.refused, ⟨⟨rfl, rfl, _, rfl, rfl⟩, _, rfl⟩, ⟨rfl, rfl⟩, ?_⟩
      intro o
      cases o <;> simp [Outcome.Arises, Account.Compiles, Account.Runs, compiles]
  | notRun compiles fails =>
      rw [account_running]
      refine ⟨.notRun, ⟨rfl, rfl, _, rfl, rfl⟩,
        ⟨quoted_singleton rfl rfl, _, rfl, traceOf_ne_nil _ _⟩, ?_⟩
      intro o
      cases o <;> simp [Outcome.Arises, Account.Compiles, Account.Runs, compiles, fails]
  | uncaptured compiles runs uncaptured =>
      rw [account_running, uncaptured]
      refine ⟨.withoutValue, ⟨rfl, rfl, rfl⟩, quoted_singleton rfl rfl, ?_⟩
      intro o
      cases o <;> simp [Outcome.Arises, Account.Compiles, Account.Runs, compiles, runs]
  | @finished compiled output answer compiles runs captured =>
      rw [account_reading, captured]
      cases answer with
      | error fault =>
          refine ⟨.unproduced, ⟨⟨rfl, rfl, _, rfl, rfl⟩, rfl⟩, quoted_singleton rfl rfl, ?_⟩
          intro o
          cases o <;> simp [Outcome.Arises, Account.Compiles, Account.Runs, compiles, runs]
      | ok text =>
          by_cases unit : Text.trim text = ['(', ')']
          · refine ⟨.withoutValue, ⟨rfl, if_pos unit, rfl⟩, quoted_singleton rfl rfl, ?_⟩
            intro o
            cases o <;> simp [Outcome.Arises, Account.Compiles, Account.Runs, compiles, runs, unit]
          · refine ⟨.withValue, ⟨Text.trim text, rfl, if_neg unit, rfl⟩,
              ⟨quoted_singleton rfl rfl, text, List.mem_singleton_self _, if_neg unit⟩, ?_⟩
            intro o
            cases o <;> simp [Outcome.Arises, Account.Compiles, Account.Runs, compiles, runs, unit]

theorem classified_withoutCompiler (config : Config) (id code cellId : Text) :
  Outcome.withoutCompiler.Shows (.failedEarly cellId (EngineError.toolchainNotFound .rustc).failure)
    ∧ ∀ o : Outcome, o.Arises (account config none id code []) ↔ o = .withoutCompiler
  := by
  refine ⟨⟨rfl, rfl, _, rfl, rfl⟩, ?_⟩
  intro o
  cases o <;> simp [Outcome.Arises, account, Account.Compiles, Plan.changes, Plan.endings]

end

/-- The outcomes of a compiled fragment. Whatever the host answers, the plan of the fragment comes to a
result. In every dialogue of the plan exactly one outcome arises, it is the one outcome that the
result shows, and what it tells is true. -/
theorem taxonomy (config : Config) (compiler : Option Text) (id code cellId : Text) :
  (∀ host : Plan.Answers, ∃ xs r, (plan config compiler id code cellId).Dialogue xs r
      ∧ ∀ x ∈ xs, x.IsFrom host)
    ∧ (∀ site m, ∃ xs, (plan config compiler id code cellId).Dialogue xs
      ((plan config compiler id code cellId).perform site m).1)
    ∧ ∀ xs r, (plan config compiler id code cellId).Dialogue xs r →
      (∃! o : Outcome, o.Shows r)
        ∧ (∀ o : Outcome, o.Shows r ↔ o.Arises (account config compiler id code xs))
        ∧ ∀ o : Outcome, o.Shows r → o.Tells (account config compiler id code xs) xs r
  := by
  refine ⟨Plan.exists_dialogue _, Plan.dialogue_perform _, ?_⟩
  intro xs r dialogue
  obtain ⟨o, shows, tells, arises⟩ : ∃ o : Outcome, o.Shows r
      ∧ o.Tells (account config compiler id code xs) xs r
      ∧ ∀ o' : Outcome, o'.Arises (account config compiler id code xs) ↔ o' = o := by
    cases compiler with
    | some compiler => exact (goes_of_dialogue dialogue).classified
    | none =>
        cases dialogue
        obtain ⟨shows, arises⟩ := classified_withoutCompiler config id code cellId
        exact ⟨.withoutCompiler, shows, ⟨rfl, rfl, rfl⟩, arises⟩
  have unique : ∀ o' : Outcome, o'.Shows r → o' = o := by
    intro o' shows'
    rw [shows.eq_shown, shows'.eq_shown]
  refine ⟨⟨o, shows, unique⟩, ?_, ?_⟩
  · intro o'
    rw [arises]
    constructor
    · exact unique o'
    · rintro rfl
      exact shows
  · intro o' shows'
    rwa [unique o' shows']

end Compiled

end NotebookEngine
