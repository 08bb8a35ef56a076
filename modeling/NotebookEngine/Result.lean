import NotebookEngine.Text.Blank

/-!
# Results

What the execution of a fragment comes to. Every execution ends in one `CellResult`: the value of
the fragment or a `Failure`, and the streams it wrote. `sideEffects` lists what the streams show.

`CellResult.Normal` is the shape every result has that leaves the engine: the side effects are
those of the streams, a success has no failure, and a failure has one and no value. `normalize`
gives a result from elsewhere that shape.
-/

namespace NotebookEngine

/-- An output that was observed beside the value. -/
structure SideEffect where
  what : Text
  content : Text
deriving DecidableEq, Repr

/-- The status of a result. -/
inductive Status where
  | ok
  | error
deriving DecidableEq, Repr

/-- The classification of failures. -/
inductive FailureKind where
  /-- No interpreter or compiler was found. -/
  | toolchainNotFound
  /-- The compile step did not succeed. -/
  | compilationError
  /-- The fragment failed while it ran. -/
  | runtimeError
  /-- No usable result was produced. -/
  | executionError
  /-- The interpreter session ended with a call outstanding. -/
  | kernelProcessExited
  /-- The time given was exceeded. -/
  | executionTimeout
deriving DecidableEq, Repr

namespace FailureKind

/-- All kinds in their usual order. -/
def all : List FailureKind :=
  [.toolchainNotFound, .compilationError, .runtimeError, .executionError, .kernelProcessExited,
    .executionTimeout]

/-- The name of a kind. -/
def name : FailureKind → Text
  | .toolchainNotFound => "ToolchainNotFound".toList
  | .compilationError => "CompilationError".toList
  | .runtimeError => "RuntimeError".toList
  | .executionError => "ExecutionError".toList
  | .kernelProcessExited => "KernelProcessExited".toList
  | .executionTimeout => "ExecutionTimeout".toList

/-- The kind of a failure that names none. -/
instance : Inhabited FailureKind :=
  ⟨.runtimeError⟩

/-- The kind of a name. -/
def ofName? (s : Text) : Option FailureKind :=
  all.find? fun k => k.name = s

end FailureKind

/-- The details of a failure. The type name is the one the language of the fragment gives it. -/
structure Failure where
  kind : FailureKind
  typeName : Text
  message : Text
  traceback : Text
deriving DecidableEq, Repr

/-- A failure whose type name is that of its kind. -/
def Failure.ofKind (kind : FailureKind) (message traceback : Text) : Failure :=
  ⟨kind, kind.name, message, traceback⟩

/-- The side effect of a stream, if it holds more than blanks. -/
def sideEffect? (what : String) (stream : Text) : Option SideEffect :=
  let content := Text.trim stream
  if content.isEmpty then none else some ⟨what.toList, content⟩

/-- What the two streams show, the output before the diagnostics. -/
def sideEffects (stdout stderr : Text) : List SideEffect :=
  [sideEffect? "stdout" stdout, sideEffect? "stderr" stderr].filterMap id

/-- The result of an execution. -/
structure CellResult where
  /-- The identifier the caller gave the fragment. -/
  cellId : Text
  status : Status
  /-- The printed value of the last expression. -/
  value : Option Text
  stdout : Text
  stderr : Text
  sideEffects : List SideEffect
  failure : Option Failure
deriving DecidableEq, Repr

namespace CellResult

/-- A success. -/
def ok (cellId : Text) (value : Option Text) (stdout stderr : Text) : CellResult :=
  ⟨cellId, .ok, value, stdout, stderr, NotebookEngine.sideEffects stdout stderr, none⟩

/-- A failure with the streams that were captured. -/
def failed (cellId : Text) (failure : Failure) (stdout stderr : Text) : CellResult :=
  ⟨cellId, .error, none, stdout, stderr, NotebookEngine.sideEffects stdout stderr, some failure⟩

/-- A failure before any process wrote anything. -/
def failedEarly (cellId : Text) (failure : Failure) : CellResult :=
  failed cellId failure [] []

/-- The result is a success. -/
def isOk (r : CellResult) : Bool :=
  r.status = .ok

/-- The failure of a result that reports an error without one. -/
def undetailed : Failure :=
  .ofKind .executionError "error reported without details".toList []

/-- The shape of every result that leaves the engine. -/
structure Normal (r : CellResult) : Prop where
  sideEffects_eq : r.sideEffects = NotebookEngine.sideEffects r.stdout r.stderr
  failure_of_ok : r.status = .ok → r.failure = none
  value_of_error : r.status = .error → r.value = none
  failure_of_error : r.status = .error → r.failure.isSome

/-- A result from elsewhere, brought into normal shape. -/
def normalize (r : CellResult) : CellResult :=
  let effects := NotebookEngine.sideEffects r.stdout r.stderr
  match r.status with
  | .ok => { r with sideEffects := effects, failure := none }
  | .error =>
    { r with sideEffects := effects, value := none, failure := some (r.failure.getD undetailed) }

@[simp]
theorem normalize_cellId (r : CellResult) :
  r.normalize.cellId = r.cellId
  := by
  unfold normalize
  cases r.status <;> rfl

theorem normal_ok (cellId : Text) (value : Option Text) (stdout stderr : Text) :
  (ok cellId value stdout stderr).Normal
  := ⟨rfl, fun _ => rfl, (nomatch ·), (nomatch ·)⟩

theorem normal_failed (cellId : Text) (failure : Failure) (stdout stderr : Text) :
  (failed cellId failure stdout stderr).Normal
  := ⟨rfl, (nomatch ·), fun _ => rfl, fun _ => rfl⟩

theorem normal_normalize (r : CellResult) :
  r.normalize.Normal
  := by
  obtain ⟨_, status, _, _, _, _, _⟩ := r
  cases status
  · exact ⟨rfl, fun _ => rfl, (nomatch ·), (nomatch ·)⟩
  · exact ⟨rfl, (nomatch ·), fun _ => rfl, fun _ => rfl⟩

/-- Normal results are those that normalizing leaves alone. -/
theorem normalize_eq_self_iff (r : CellResult) :
  r.normalize = r ↔ r.Normal
  := by
  constructor
  · intro h
    rw [← h]
    exact normal_normalize r
  · rintro ⟨heffects, hok, hvalue, hfailure⟩
    obtain ⟨_, status, _, _, _, _, failure⟩ := r
    cases status
    · simp_all [normalize]
    · obtain ⟨f, hf⟩ := Option.isSome_iff_exists.1 (hfailure rfl)
      simp_all [normalize]

end CellResult

end NotebookEngine
