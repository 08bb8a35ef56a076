import NotebookEngine.Ending
import NotebookEngine.Json.Typed
import NotebookEngine.Result.Wire

/-!
# Reports of scripts

A generated script leaves one JSON object in a file: its value, or what was thrown. The member
`status` says which, and the others are read only when all of them are known. `Report.result`
makes a result of a report and the streams of the script.
-/

namespace NotebookEngine

open Json

/-- What a script has thrown. -/
structure Thrown where
  name : Text
  message : Text
  stack : Text
deriving DecidableEq, Repr

namespace Thrown

/-- Something thrown that is being read. -/
structure Draft where
  name : Option Text := none
  message : Option Text := none
  stack : Option Text := none

/-- The fields of what is thrown, all of which may be left out. -/
def record : Record Draft Thrown where
  title := "struct ThrownError".toList
  fields := [
    ⟨"name".toList, false, fun d => d.name.isSome,
      textReader.map fun s d => { d with name := some s }⟩,
    ⟨"message".toList, false, fun d => d.message.isSome,
      textReader.map fun s d => { d with message := some s }⟩,
    ⟨"stack".toList, false, fun d => d.stack.isSome,
      textReader.map fun s d => { d with stack := some s }⟩]
  empty := {}
  close d := .ok ⟨d.name.getD "Error".toList, d.message.getD [], d.stack.getD []⟩

end Thrown

/-- The report of a script. -/
inductive Report where
  | ok (value : Option Text)
  | error (thrown : Thrown)
deriving DecidableEq, Repr

namespace Report

/-- The report of a value, beside its status. -/
def okRecord : Record (Option (Option Text)) Report where
  title := "struct variant HarnessReport::Ok".toList
  fields := [⟨"result".toList, false, Option.isSome, textReader.optional.map fun v _ => some v⟩]
  empty := none
  close d := .ok (.ok (d.getD none))

/-- The report of something thrown, beside its status. -/
def errorRecord : Record (Option Thrown) Report where
  title := "struct variant HarnessReport::Error".toList
  fields := [⟨"error".toList, true, Option.isSome, Thrown.record.reader.map fun t _ => some t⟩]
  empty := none
  close d := (need "error" d).map .error

/-- The report of a status, from the other members or elements. -/
def ofContent (status : Status) (content : Value) : Except Misfit Report :=
  match status with
  | .ok => okRecord.take .sequence content
  | .error => errorRecord.take .sequence content

/-- The name of the member that holds the status. -/
def tag : Text :=
  "status".toList

/-- The status and the other members of an object, up to its closing brace. -/
def scanTagged (depth : Nat) :
    (fuel : Nat) → (first : Bool) → Option Status → (others : List Member) →
      Scan (Option Status × List Member)
  | 0, _, _, _, s => .error (stopPast .endInObject s)
  | fuel + 1, first, status, others, s =>
    match nextKey? first s with
    | .error e => .error e
    | .ok none => .ok ((status, others.reverse), s)
    | .ok (some (name, rest)) =>
      if name = tag then
        if status.isSome then .error (misfitAt (.duplicateField tag) (skipGap rest))
        else
          match scanColon rest >>= scanName [(Status.ok.name, .ok), (Status.error.name, .error)] with
          | .error e => .error e
          | .ok (status, rest) => scanTagged depth fuel false (some status) others rest
      else
        match scanColon rest >>= scanValue depth with
        | .error e => .error e
        | .ok (v, rest) => scanTagged depth fuel false status ((name, v) :: others) rest

/-- The status and the other parts of a report. -/
def scanParts (depth : Nat) : Scan (Status × Value) := fun s =>
  match skipGap s with
  | [] => .error (stopPast .endInValue [])
  | '\x7b' :: r =>
    match scanTagged depth (r.length + 1) true none [] r with
    | .error e => .error e
    | .ok ((status, others), rest) =>
      match endObject rest, status with
      | .ok rest, some status => .ok ((status, .object others), rest)
      | .ok rest, none => .error (misfitAt (.missingField tag) rest)
      | .error e, _ => .error e
  | '[' :: r =>
    match nextElement? true r with
    | .error e => .error e
    | .ok none => .error (misfitAt (.missingField tag) ((skipGap r).drop 1))
    | .ok (some r) =>
      match scanName [(Status.ok.name, .ok), (Status.error.name, .error)] r with
      | .error e => .error e
      | .ok (status, rest) =>
        (scanElements (scanValue depth) (rest.length + 1) false [] rest).map fun p =>
          ((status, .list p.1), p.2)
  | s => .error (misplaced "internally tagged enum HarnessReport".toList s)

/-- The reading of a report. -/
def reader : Reader Report where
  scan depth s :=
    match scanParts (depth - 1) s with
    | .error e => .error e
    | .ok ((status, content), rest) =>
      match ofContent status content with
      | .ok report => .ok (report, rest)
      | .error m => .error ⟨.misfit m, none⟩
  take _ v :=
    match v with
    | .object ms =>
      match ms.filter fun m => m.1 = tag with
      | [] => .error (.missingField tag)
      | [(_, v)] => do
        let status ← Status.reader.take .sequence v
        ofContent status (.object (ms.filter fun m => m.1 ≠ tag))
      | _ => .error (.duplicateField tag)
    | .list [] => .error (.missingField tag)
    | .list (v :: vs) => do
      let status ← Status.reader.take .sequence v
      ofContent status (.list vs)
    | v => .error (.wrongType v.found "internally tagged enum HarnessReport".toList)

/-- The report in a text, if it holds one. -/
def ofText? (s : Text) : Option Report :=
  match reader.read s with
  | .ok report => some report
  | .error _ => none

/-- The result of a report and the streams of the script. -/
def result (cellId : Text) (output : ProcessOutput) : Report → CellResult
  | .ok value => .ok cellId value output.stdout output.stderr
  | .error thrown =>
    .failed cellId ⟨.runtimeError, thrown.name, thrown.message, thrown.stack⟩ output.stdout
      output.stderr

/-- The result of a script that left no report. -/
def missing (cellId : Text) (output : ProcessOutput) : CellResult :=
  .failed cellId (.ofKind .executionError "No result produced".toList output.stderr) output.stdout
    output.stderr

end Report

end NotebookEngine
