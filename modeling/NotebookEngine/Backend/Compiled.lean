import NotebookEngine.Backend.Staging
import NotebookEngine.Config
import NotebookEngine.Fragment.Program

/-!
# The backend of compiled fragments

The program of a fragment is staged and compiled, then the binary is run. A value comes back through
a file that the program writes.
-/

namespace NotebookEngine

namespace Compiled

/-- What stands for the path of the staged source in diagnostics. -/
def placeholder : Text :=
  "<rust>".toList

/-- The diagnostics of a compiler without the path of the staged source. -/
def diagnostics (source stderr : Text) : Text :=
  Text.replaceAll source placeholder stderr

/-- The command that compiles a program. -/
def compileCommand (compiler edition source binary : Text) : Command :=
  ⟨compiler, ["--edition".toList, edition, source, "-o".toList, binary]⟩

/-- The result of a compilation that did not succeed. -/
def notCompiled (cellId source : Text) (limit : Nat) (output : ProcessOutput) : CellResult :=
  let told := match output.ending with
    | .timedOut => output.describe limit
    | .exited _ => diagnostics source output.stderr
  .failed cellId (.ofKind .compilationError "Failed to compile Rust code".toList told) [] told

/-- The trace of a run that did not succeed: what it wrote on its error stream, or how it ended. -/
def traceOf (limit : Nat) (output : ProcessOutput) : Text :=
  if Text.isBlankText output.stderr then output.describe limit else output.stderr

/-- The result of a run that did not succeed. -/
def notRun (cellId : Text) (limit : Nat) (output : ProcessOutput) : CellResult :=
  let message := match output.ending with
    | .timedOut => output.describe limit
    | .exited _ => "Rust program exited with error".toList
  .failed cellId (.ofKind .runtimeError message (traceOf limit output)) output.stdout
    output.stderr

/-- The value in the result file: the unit value is none. -/
def valueOf (written : Text) : Option Text :=
  let value := Text.trim written
  if value = ['(', ')'] then none else some value

/-- The result of a run that succeeded, from the result file if a value was to be left in it. -/
def finished (cellId : Text) (output : ProcessOutput) : (written : Option Text) → CellResult
  | some written => .ok cellId (valueOf written) output.stdout output.stderr
  | none =>
    .failed cellId (.ofKind .executionError "No result produced".toList []) output.stdout
      output.stderr

/-- The work of a run, given the compiler. -/
def work (config : Config) (compiler code cellId : Text) : Work CellResult := do
  let parts := Fragment.split code
  let resultPath ← Work.reserve "_result.txt"
  let binary ← Work.reserve ""
  let source ← Work.write ".rs" (parts.program resultPath)
  let compiled ← Work.execute (compileCommand compiler config.rustEdition source binary)
    config.compileTimeout
  if !compiled.isSuccess then return notCompiled cellId source config.compileTimeout compiled
  let output ← Work.execute ⟨binary, []⟩ config.runTimeout
  if !output.isSuccess then return notRun cellId config.runTimeout output
  if !parts.capturesValue then return .ok cellId none output.stdout output.stderr
  return finished cellId output (← Work.read? resultPath)

/-- The plan of a run. Without a compiler nothing is done. -/
def plan (config : Config) (compiler : Option Text) (id code cellId : Text) : Plan CellResult :=
  match compiler with
  | none => .done (.failedEarly cellId (EngineError.toolchainNotFound .rustc).failure)
  | some compiler =>
    (work config compiler code cellId).run ⟨config.tempDir, "rust".toList, id, []⟩ cellId

end Compiled

end NotebookEngine
