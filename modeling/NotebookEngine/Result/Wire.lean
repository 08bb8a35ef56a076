import NotebookEngine.Json.Printer
import NotebookEngine.Json.Typed
import NotebookEngine.Language
import NotebookEngine.Result

/-!
# Results on the wire

The JSON form of requests, results, failures and side effects: their members in a fixed order
when written (`toJson`), in any order when read (`reader`). What a reader may miss takes a
default.
-/

namespace NotebookEngine

open Json

/-- The wording for a text in a typed reading. -/
def Json.textReader : Reader Text :=
  .text "a string".toList

namespace Language

/-- The JSON form is the canonical tag. -/
def toJson (l : Language) : Value :=
  .text l.tag

/-- The reading of a canonical tag. -/
def reader : Reader Language :=
  .choice (all.map fun l => (l.tag, l))

end Language

namespace Status

/-- The name of a status. -/
def name : Status → Text
  | .ok => "ok".toList
  | .error => "error".toList

/-- The JSON form is the name. -/
def toJson (s : Status) : Value :=
  .text s.name

/-- The reading of a status. -/
def reader : Reader Status :=
  .choice [(Status.ok.name, .ok), (Status.error.name, .error)]

end Status

namespace FailureKind

/-- The JSON form is the name. -/
def toJson (k : FailureKind) : Value :=
  .text k.name

/-- The reading of a kind. -/
def reader : Reader FailureKind :=
  .choice (all.map fun k => (k.name, k))

end FailureKind

namespace SideEffect

/-- The JSON form of a side effect. -/
def toJson (e : SideEffect) : Value :=
  .object [("what".toList, .text e.what), ("content".toList, .text e.content)]

/-- A side effect being read. -/
structure Draft where
  what : Option Text := none
  content : Option Text := none

/-- The fields of a side effect. -/
def record : Record Draft SideEffect where
  title := "struct SideEffect".toList
  fields := [
    ⟨"what".toList, true, fun d => d.what.isSome,
      textReader.map fun s d => { d with what := some s }⟩,
    ⟨"content".toList, true, fun d => d.content.isSome,
      textReader.map fun s d => { d with content := some s }⟩]
  empty := {}
  close d := do
    let what ← need "what" d.what
    let content ← need "content" d.content
    return ⟨what, content⟩

/-- The reading of a side effect. -/
def reader : Reader SideEffect :=
  record.reader

end SideEffect

namespace Failure

/-- The JSON form of a failure. -/
def toJson (f : Failure) : Value :=
  .object [("kind".toList, f.kind.toJson), ("type".toList, .text f.typeName),
    ("message".toList, .text f.message), ("traceback".toList, .text f.traceback)]

/-- A failure being read. -/
structure Draft where
  kind : Option FailureKind := none
  typeName : Option Text := none
  message : Option Text := none
  traceback : Option Text := none

/-- The fields of a failure, all of which may be left out. -/
def record : Record Draft Failure where
  title := "struct ErrorInfo".toList
  fields := [
    ⟨"kind".toList, false, fun d => d.kind.isSome,
      FailureKind.reader.map fun k d => { d with kind := some k }⟩,
    ⟨"type".toList, false, fun d => d.typeName.isSome,
      textReader.map fun s d => { d with typeName := some s }⟩,
    ⟨"message".toList, false, fun d => d.message.isSome,
      textReader.map fun s d => { d with message := some s }⟩,
    ⟨"traceback".toList, false, fun d => d.traceback.isSome,
      textReader.map fun s d => { d with traceback := some s }⟩]
  empty := {}
  close d := .ok ⟨d.kind.getD default, d.typeName.getD [], d.message.getD [], d.traceback.getD []⟩

/-- The reading of a failure. -/
def reader : Reader Failure :=
  record.reader

end Failure

/-- The JSON form of what may be missing. -/
def Json.optional {α : Type} (toJson : α → Value) : Option α → Value
  | none => .null
  | some a => toJson a

namespace CellResult

/-- The JSON form of a result. -/
def toJson (r : CellResult) : Value :=
  .object [("cell_id".toList, .text r.cellId), ("status".toList, r.status.toJson),
    ("result".toList, Json.optional .text r.value), ("stdout".toList, .text r.stdout),
    ("stderr".toList, .text r.stderr),
    ("side_effects".toList, .list (r.sideEffects.map SideEffect.toJson)),
    ("error".toList, Json.optional Failure.toJson r.failure)]

/-- A result being read. -/
structure Draft where
  cellId : Option Text := none
  status : Option Status := none
  value : Option (Option Text) := none
  stdout : Option Text := none
  stderr : Option Text := none
  sideEffects : Option (List SideEffect) := none
  failure : Option (Option Failure) := none

/-- The fields of a result, all but the status of which may be left out. -/
def record : Record Draft CellResult where
  title := "struct ExecutionResult".toList
  fields := [
    ⟨"cell_id".toList, false, fun d => d.cellId.isSome,
      textReader.map fun s d => { d with cellId := some s }⟩,
    ⟨"status".toList, true, fun d => d.status.isSome,
      Status.reader.map fun s d => { d with status := some s }⟩,
    ⟨"result".toList, false, fun d => d.value.isSome,
      textReader.optional.map fun s d => { d with value := some s }⟩,
    ⟨"stdout".toList, false, fun d => d.stdout.isSome,
      textReader.map fun s d => { d with stdout := some s }⟩,
    ⟨"stderr".toList, false, fun d => d.stderr.isSome,
      textReader.map fun s d => { d with stderr := some s }⟩,
    ⟨"side_effects".toList, false, fun d => d.sideEffects.isSome,
      SideEffect.reader.list.map fun es d => { d with sideEffects := some es }⟩,
    ⟨"error".toList, false, fun d => d.failure.isSome,
      Failure.reader.optional.map fun f d => { d with failure := some f }⟩]
  empty := {}
  close d := do
    let status ← need "status" d.status
    return ⟨d.cellId.getD [], status, d.value.getD none, d.stdout.getD [], d.stderr.getD [],
      d.sideEffects.getD [], d.failure.getD none⟩

/-- The reading of a result. -/
def reader : Reader CellResult :=
  record.reader

end CellResult

/-- A fragment to be executed, under the identifier its caller gives it. -/
structure CellRequest where
  code : Text
  cellId : Text
  language : Language
deriving DecidableEq, Repr

namespace CellRequest

/-- The JSON form of a request. -/
def toJson (r : CellRequest) : Value :=
  .object [("code".toList, .text r.code), ("cell_id".toList, .text r.cellId),
    ("language".toList, r.language.toJson)]

/-- A request being read. -/
structure Draft where
  code : Option Text := none
  cellId : Option Text := none
  language : Option Language := none

/-- The fields of a request. -/
def record : Record Draft CellRequest where
  title := "struct ExecutionRequest".toList
  fields := [
    ⟨"code".toList, true, fun d => d.code.isSome,
      textReader.map fun s d => { d with code := some s }⟩,
    ⟨"cell_id".toList, true, fun d => d.cellId.isSome,
      textReader.map fun s d => { d with cellId := some s }⟩,
    ⟨"language".toList, true, fun d => d.language.isSome,
      Language.reader.map fun l d => { d with language := some l }⟩]
  empty := {}
  close d := do
    let code ← need "code" d.code
    let cellId ← need "cell_id" d.cellId
    let language ← need "language" d.language
    return ⟨code, cellId, language⟩

/-- The reading of a request. -/
def reader : Reader CellRequest :=
  record.reader

end CellRequest

end NotebookEngine
