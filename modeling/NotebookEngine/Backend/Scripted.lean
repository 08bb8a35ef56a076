import NotebookEngine.Backend.Compiled
import NotebookEngine.Report
import NotebookEngine.Script.Program

/-!
# The backends of script fragments

A script is staged and run, and its report is read from a file. For a plain script the ending counts
before the report; a typed script that left a report is judged by it, whatever its ending, unless its
time was over.
-/

namespace NotebookEngine

namespace Scripted

/-- The report in a file, if there is one. -/
def report? (path : Text) : Work (Option Report) := do
  return (← Work.read? path).bind Report.ofText?

/-- The result of a plain script that did not succeed. -/
def notRun (cellId : Text) (limit : Nat) (output : ProcessOutput) : CellResult :=
  let message := match output.ending with
    | .timedOut => output.describe limit
    | .exited _ => "JavaScript execution failed".toList
  .failed cellId (.ofKind .runtimeError message (Compiled.traceOf limit output)) output.stdout
    output.stderr

/-- The result of a typed script whose time was over. -/
def timedOut (cellId : Text) (limit : Nat) (output : ProcessOutput) : CellResult :=
  .failed cellId
    (.ofKind .runtimeError (output.describe limit) (Compiled.traceOf limit output))
    output.stdout output.stderr

/-- The result of a typed script that failed before it could leave a report. -/
def notCompiled (cellId : Text) (output : ProcessOutput) : CellResult :=
  let message :=
    if Text.isBlankText output.stderr then "TypeScript compilation failed".toList
    else Text.trim output.stderr
  .failed cellId (.ofKind .compilationError message output.stderr) output.stdout output.stderr

/-- The result of a plain script. -/
def plainResult (cellId : Text) (output : ProcessOutput) : Option Report → CellResult
  | some report => report.result cellId output
  | none => Report.missing cellId output

/-- The result of a typed script whose time was not over. -/
def typedResult (cellId : Text) (output : ProcessOutput) : Option Report → CellResult
  | some report => report.result cellId output
  | none => if output.isSuccess then Report.missing cellId output else notCompiled cellId output

/-- The work of running a plain script, given the runtime. -/
def plainWork (config : Config) (runtime code cellId : Text) : Work CellResult := do
  let resultPath ← Work.reserve "_result.json"
  let userPath ← Work.write "_user.js" (Script.addReturn .plain code)
  let executorPath ← Work.write "_executor.js"
    (Script.executor userPath resultPath config.inspectDepth)
  let output ← Work.execute ⟨runtime, [executorPath]⟩ config.runTimeout
  if !output.isSuccess then return notRun cellId config.runTimeout output
  return plainResult cellId output (← report? resultPath)

/-- The work of running a typed script, given the runtime. -/
def typedWork (config : Config) (runtime code cellId : Text) : Work CellResult := do
  let resultPath ← Work.reserve "_result.json"
  let modulePath ← Work.write ".ts" (Script.typedModule code resultPath config.inspectDepth)
  let output ← Work.execute ⟨runtime, ["run".toList, modulePath]⟩ config.runTimeout
  match output.ending with
  | .timedOut => return timedOut cellId config.runTimeout output
  | .exited _ => return typedResult cellId output (← report? resultPath)

/-- The plan of running a plain script. Without a runtime nothing is done. -/
def plainPlan (config : Config) (runtime : Option Text) (id code cellId : Text) :
    Plan CellResult :=
  match runtime with
  | none => .done (.failedEarly cellId (EngineError.toolchainNotFound .javascript).failure)
  | some runtime =>
    (plainWork config runtime code cellId).run ⟨config.tempDir, "js".toList, id, []⟩ cellId

/-- The plan of running a typed script. Without a runtime nothing is done. -/
def typedPlan (config : Config) (runtime : Option Text) (id code cellId : Text) :
    Plan CellResult :=
  match runtime with
  | none => .done (.failedEarly cellId (EngineError.toolchainNotFound .typescript).failure)
  | some runtime =>
    (typedWork config runtime code cellId).run ⟨config.tempDir, "ts".toList, id, []⟩ cellId

end Scripted

end NotebookEngine
