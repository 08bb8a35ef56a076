import NotebookEngine.Proofs.Json.Printed
import NotebookEngine.Proofs.Text.Rows
import NotebookEngine.Session.Message

/-!
# Requests as lines

A request is one line, whatever the code in it, and an interpreter that reads the line has the
request again (`Request.ofLine?_line`). So the requests that are sent one after the other are the
requests that are read line by line (`Request.ofStream?_lines`), and code is never taken for a
command (`Request.framing`).
-/

namespace NotebookEngine

namespace Session

open Json

/-- The request that an interpreter takes a JSON value for. A command comes before any code. -/
def Request.ofJson? (v : Value) : Option Request :=
  match v.member? "command".toList with
  | some (.text command) => if command = "shutdown".toList then some .shutdown else none
  | some _ => none
  | none => do
    let code ← (v.member? "code".toList).bind Value.text?
    let cellId ← (v.member? "cell_id".toList).bind Value.text?
    return .execute code cellId

/-- The request of a line. -/
def Request.ofLine? (line : Text) : Option Request :=
  match Reader.value.read line with
  | .ok v => Request.ofJson? v
  | .error _ => none

/-- The requests of a stream that ends with the end of a line. -/
def Request.ofStream? (stream : Text) : Option (List Request) :=
  (Text.rows stream).dropLast.mapM Request.ofLine?

theorem Request.legible_toJson (r : Request) :
  Legible maxDepth r.toJson
  := by
  cases r with
  | execute code cellId =>
      apply Legible.object
      simp only [List.mem_cons, List.not_mem_nil, or_false, forall_eq_or_imp, forall_eq]
      constructor
      · apply Legible.text
      · apply Legible.text
  | shutdown =>
      apply Legible.object
      simp only [List.mem_cons, List.not_mem_nil, or_false, forall_eq]
      apply Legible.text

/-- The JSON form of a request is read from its line, with the end of the line or without it. -/
theorem Request.read_compact (r : Request) :
  Reader.value.read r.toJson.compact = .ok r.toJson
  := by
  rw [← List.append_nil r.toJson.compact]
  apply r.legible_toJson.read_compact
  nofun

theorem Request.read_line (r : Request) :
  Reader.value.read r.line = .ok r.toJson
  := by
  apply r.legible_toJson.read_compact
  rw [List.forall_mem_singleton]
  rfl

/-- An interpreter takes the JSON form of a request for that request. -/
theorem Request.ofJson?_toJson (r : Request) :
  Request.ofJson? r.toJson = some r
  := by
  cases r with
  | execute code cellId =>
      have noCommand : (toJson (execute code cellId)).member? "command".toList = none := rfl
      have codeMember :
        (toJson (execute code cellId)).member? "code".toList = some (.text code) := rfl
      have cellMember :
        (toJson (execute code cellId)).member? "cell_id".toList = some (.text cellId) := rfl
      simp only [ofJson?, noCommand, codeMember, cellMember]
      rfl
  | shutdown =>
      have commandMember :
        (toJson shutdown).member? "command".toList = some (.text "shutdown".toList) := rfl
      simp only [ofJson?, commandMember, ↓reduceIte]

theorem Request.ofLine?_compact (r : Request) :
  Request.ofLine? r.toJson.compact = some r
  := by
  rw [ofLine?, r.read_compact]
  apply ofJson?_toJson

theorem Request.ofLine?_line (r : Request) :
  Request.ofLine? r.line = some r
  := by
  rw [ofLine?, r.read_line]
  apply ofJson?_toJson

/-- Different requests are different lines. -/
theorem Request.line_injective :
  Function.Injective Request.line
  := by
  intro r s same
  have read := congrArg Request.ofLine? same
  rwa [ofLine?_line, ofLine?_line, Option.some.injEq] at read

/-- The rows of a stream of requests are the requests, and the empty row after the last of them. -/
theorem Request.rows_lines (rs : List Request) :
  Text.rows (rs.flatMap Request.line) = rs.map (fun r => r.toJson.compact) ++ [[]]
  := by
  have ended : rs.flatMap Request.line = Text.ended (rs.map fun r => r.toJson.compact) := by
    rw [Text.ended, List.flatMap_map]
    rfl
  rw [ended, Text.rows_ended]
  rw [List.forall_mem_map]
  intro r _
  exact r.newline_notMem_compact

/-- The requests that are read from a stream are those that were written to it. -/
theorem Request.ofStream?_lines (rs : List Request) :
  Request.ofStream? (rs.flatMap Request.line) = some rs
  := by
  rw [ofStream?, rows_lines, List.dropLast_concat]
  induction rs with
  | nil => rfl
  | cons r rs ih => simp [List.mapM_cons, ofLine?_compact, ih]

/-- The request to run a code in a cell is one line without control characters, an object of the
code and the cell that is no command; and no two requests are the same line. -/
theorem Request.framing :
  (∀ code cellId : Text, ∃ text : Text,
    (Request.execute code cellId).line = text ++ ['\n']
      ∧ Visible text
      ∧ Reader.value.read text
        = .ok (.object [("code".toList, .text code), ("cell_id".toList, .text cellId)])
      ∧ (∀ v, Reader.value.read text = .ok v ∨ Reader.value.read (text ++ ['\n']) = .ok v →
        v.member? "command".toList = none
          ∧ Request.ofJson? v = some (.execute code cellId)))
    ∧ Function.Injective Request.line
  := by
  constructor
  · intro code cellId
    use (Request.execute code cellId).toJson.compact
    refine ⟨rfl, (legible_toJson _).visible, read_compact _, ?_⟩
    intro v read
    have same : v = (Request.execute code cellId).toJson := by
      rcases read with read | read
      · rw [read_compact, Except.ok.injEq] at read
        exact read.symm
      · rw [← Request.line, read_line, Except.ok.injEq] at read
        exact read.symm
    rw [same]
    constructor
    · simp [toJson, Value.member?]
    · apply ofJson?_toJson
  · apply line_injective

end Session

end NotebookEngine
