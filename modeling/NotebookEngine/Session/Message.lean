import NotebookEngine.Json.Printer
import NotebookEngine.Json.Typed
import NotebookEngine.Result.Wire

/-!
# Messages of an interpreter session

Requests go to the interpreter and messages come back, each as one line of JSON. A message with
the status `ready` or `shutdown` is about the session; every other one is a result.
-/

namespace NotebookEngine

namespace Session

open Json

/-- A request to the interpreter. -/
inductive Request where
  | execute (code cellId : Text)
  | shutdown
deriving DecidableEq, Repr

/-- The JSON form of a request. -/
def Request.toJson : Request → Value
  | .execute code cellId => .object [("code".toList, .text code), ("cell_id".toList, .text cellId)]
  | .shutdown => .object [("command".toList, .text "shutdown".toList)]

/-- The line of a request, ended. -/
def Request.line (r : Request) : Text :=
  r.toJson.compact ++ ['\n']

/-- The JSON form of a request is written on one line. -/
theorem Request.newline_notMem_compact (r : Request) :
  '\n' ∉ r.toJson.compact
  := by
  cases r with
  | execute code cellId =>
      simp [toJson, Value.compact, Value.compactMembers, newline_notMem_string]
  | shutdown => simp [toJson, Value.compact, Value.compactMembers, newline_notMem_string]

/-- A message from the interpreter. -/
inductive Message where
  /-- Requests are accepted from now on. -/
  | ready
  /-- The interpreter is about to leave. -/
  | shutdownAcknowledged
  | result (r : CellResult)
deriving DecidableEq, Repr

/-- The message of a JSON value. -/
def Message.ofJson (v : Value) : Except Fault Message :=
  match (v.member? "status".toList).bind Value.text? with
  | some status =>
    if status = "ready".toList then .ok .ready
    else if status = "shutdown".toList then .ok .shutdownAcknowledged
    else (CellResult.reader.fit v).map .result
  | none => (CellResult.reader.fit v).map .result

/-- The message of a line. -/
def Message.ofLine (line : Text) : Except Fault Message :=
  Reader.value.read line >>= Message.ofJson

end Session

end NotebookEngine
