import NotebookEngine.CommandLine.Answer
import NotebookEngine.Proofs.Json.Readers
import NotebookEngine.Session.Message

/-!
# Results over the wire

Results, failures, side effects and requests are understood by their readers as what they are
(`CellResult.understands_toJson`), so they are read back from every text that writes them, and a line
that writes a result is that result for an interpreter session (`CellResult.round_trip`).
-/

namespace NotebookEngine

open Json

variable (depth : Nat)

/-! ### What is understood -/

theorem Json.understands_textReader (s : Text) :
  textReader.Understands depth (.text s) s
  := Reader.understands_text _ s

theorem Language.understands_toJson (l : Language) :
  reader.Understands depth l.toJson l
  := by
  apply Reader.understands_choice
  cases l <;> rfl

theorem Status.understands_toJson (s : Status) :
  reader.Understands depth s.toJson s
  := by
  apply Reader.understands_choice
  cases s <;> rfl

theorem FailureKind.understands_toJson (k : FailureKind) :
  reader.Understands depth k.toJson k
  := by
  apply Reader.understands_choice
  cases k <;> rfl

/-- What may be missing is understood if its value is, which is not null. -/
theorem Json.understands_optional {α : Type} {r : Reader α} {toJson : α → Value}
    (understands : ∀ a, r.Understands depth (toJson a) a) (present : ∀ a, toJson a ≠ .null)
    (o : Option α) :
  r.optional.Understands depth (optional toJson o) o
  := by
  cases o with
  | none => exact Reader.understands_none r
  | some a => exact (understands a).optional (present a)

theorem SideEffect.understands_toJson (e : SideEffect) :
  reader.Understands (depth + 1) e.toJson e
  := by
  have what := (understands_textReader depth e.what).map
    fun s (d : Draft) => { d with what := some s }
  have content := (understands_textReader depth e.content).map
    fun s (d : Draft) => { d with content := some s }
  apply Record.understands ⟨some e.what, some e.content⟩
  · exact .cons rfl rfl what (.cons rfl rfl content .nil)
  · exact .cons rfl rfl content (.cons rfl rfl what .nil)
  · rfl

theorem Failure.understands_toJson (f : Failure) :
  reader.Understands (depth + 1) f.toJson f
  := by
  have kind := (f.kind.understands_toJson depth).map
    fun k (d : Draft) => { d with kind := some k }
  have typeName := (understands_textReader depth f.typeName).map
    fun s (d : Draft) => { d with typeName := some s }
  have message := (understands_textReader depth f.message).map
    fun s (d : Draft) => { d with message := some s }
  have traceback := (understands_textReader depth f.traceback).map
    fun s (d : Draft) => { d with traceback := some s }
  apply Record.understands ⟨some f.kind, some f.typeName, some f.message, some f.traceback⟩
  · exact .cons rfl rfl kind (.cons rfl rfl typeName (.cons rfl rfl message
      (.cons rfl rfl traceback .nil)))
  · exact .cons rfl rfl kind (.cons rfl rfl message (.cons rfl rfl traceback
      (.cons rfl rfl typeName .nil)))
  · rfl

theorem CellRequest.understands_toJson (r : CellRequest) :
  reader.Understands (depth + 1) r.toJson r
  := by
  have code := (understands_textReader depth r.code).map
    fun s (d : Draft) => { d with code := some s }
  have cellId := (understands_textReader depth r.cellId).map
    fun s (d : Draft) => { d with cellId := some s }
  have language := (r.language.understands_toJson depth).map
    fun l (d : Draft) => { d with language := some l }
  apply Record.understands ⟨some r.code, some r.cellId, some r.language⟩
  · exact .cons rfl rfl code (.cons rfl rfl cellId (.cons rfl rfl language .nil))
  · exact .cons rfl rfl cellId (.cons rfl rfl code (.cons rfl rfl language .nil))
  · rfl

theorem CellResult.understands_toJson (r : CellResult) :
  reader.Understands (depth + 3) r.toJson r
  := by
  have cellId := (understands_textReader (depth + 2) r.cellId).map
    fun s (d : Draft) => { d with cellId := some s }
  have status := (r.status.understands_toJson (depth + 2)).map
    fun s (d : Draft) => { d with status := some s }
  have value := (understands_optional (depth + 2) (understands_textReader (depth + 2)) nofun
    r.value).map fun s (d : Draft) => { d with value := some s }
  have stdout := (understands_textReader (depth + 2) r.stdout).map
    fun s (d : Draft) => { d with stdout := some s }
  have stderr := (understands_textReader (depth + 2) r.stderr).map
    fun s (d : Draft) => { d with stderr := some s }
  have effects : List.Forall₂ (SideEffect.reader.Understands (depth + 1))
      (r.sideEffects.map SideEffect.toJson) r.sideEffects := by
    rw [List.forall₂_map_left_iff, List.forall₂_same]
    intro e _
    apply e.understands_toJson
  have sideEffects := (Reader.understands_list effects).map
    fun es (d : Draft) => { d with sideEffects := some es }
  have failure := (understands_optional (depth + 2) (Failure.understands_toJson (depth + 1)) nofun
    r.failure).map fun f (d : Draft) => { d with failure := some f }
  apply Record.understands ⟨some r.cellId, some r.status, some r.value, some r.stdout,
    some r.stderr, some r.sideEffects, some r.failure⟩
  · exact .cons rfl rfl cellId (.cons rfl rfl status (.cons rfl rfl value (.cons rfl rfl stdout
      (.cons rfl rfl stderr (.cons rfl rfl sideEffects (.cons rfl rfl failure .nil))))))
  · exact .cons rfl rfl cellId (.cons rfl rfl failure (.cons rfl rfl value
      (.cons rfl rfl sideEffects (.cons rfl rfl status (.cons rfl rfl stderr
        (.cons rfl rfl stdout .nil))))))
  · rfl

/-! ### What is printed -/

theorem SideEffect.legible_toJson (e : SideEffect) :
  Legible (depth + 1) e.toJson
  := by
  apply Legible.object
  simp only [List.forall_mem_cons]
  exact ⟨.text, .text, nofun⟩

theorem Failure.legible_toJson (f : Failure) :
  Legible (depth + 1) f.toJson
  := by
  apply Legible.object
  simp only [List.forall_mem_cons]
  exact ⟨.text, .text, .text, .text, nofun⟩

theorem CellRequest.legible_toJson (r : CellRequest) :
  Legible (depth + 1) r.toJson
  := by
  apply Legible.object
  simp only [List.forall_mem_cons]
  exact ⟨.text, .text, .text, nofun⟩

theorem Json.legible_optional {α : Type} {toJson : α → Value}
    (legible : ∀ a, Legible depth (toJson a)) (o : Option α) :
  Legible depth (optional toJson o)
  := by
  cases o with
  | none => exact .null
  | some a => exact legible a

theorem CellResult.legible_toJson (r : CellResult) :
  Legible (depth + 3) r.toJson
  := by
  have effects : Legible (depth + 2) (.list (r.sideEffects.map SideEffect.toJson)) := by
    apply Legible.list
    rw [List.forall_mem_map]
    intro e _
    apply e.legible_toJson
  apply Legible.object
  simp only [List.forall_mem_cons]
  exact ⟨.text, .text, legible_optional _ (fun _ => .text) _, .text, .text, effects,
    legible_optional _ (Failure.legible_toJson _) _, nofun⟩

/-! ### What is read back -/

/-- A reader has something back from both forms in which a JSON value is printed. -/
structure Json.ReadsBack {α : Type} (r : Reader α) (v : Value) (a : α) : Prop where
  compact : r.read v.compact = .ok a
  pretty : r.read v.pretty = .ok a

/-- What is printed without numbers is read back by a reader that understands it. -/
theorem Json.Reader.Understands.readsBack {α : Type} {r : Reader α} {v : Value} {a : α}
    (understands : r.Understands maxDepth v a) (legible : Legible maxDepth v) :
  ReadsBack r v a
  := by
  constructor
  · rw [← List.append_nil v.compact]
    exact understands.read legible.written_compact gap_nil
  · rw [← List.append_nil v.pretty]
    exact understands.read legible.written_pretty gap_nil

/-- The JSON form of a result is none of a message about the session. -/
theorem Session.Message.ofJson_toJson (r : CellResult) :
  ofJson r.toJson = .ok (.result r)
  := by
  have fits : CellResult.reader.fit r.toJson = .ok r := (r.understands_toJson 0).fit
  have given : (r.toJson.member? "status".toList).bind Value.text? = some r.status.name := rfl
  simp only [ofJson, given, fits]
  cases r.status <;> rfl

/-- A line that writes a result is that result. -/
theorem Session.Message.ofLine_of_written {r : CellResult} {t : Text}
    (written : Written maxDepth r.toJson t) :
  ofLine t = .ok (.result r)
  := by
  have read := written.read gap_nil
  rw [List.append_nil] at read
  rw [ofLine, read]
  exact ofJson_toJson r

/-- A result is read back from both forms in which it is printed, and so it is from the document that
shows it; and for a session both are that result, and no message about the session. Failures, side
effects and requests are read back as well. -/
theorem CellResult.round_trip :
  (∀ r : CellResult,
    ReadsBack reader r.toJson r
      ∧ reader.read (CommandLine.document r).output = .ok r
      ∧ Session.Message.ofLine r.toJson.compact = .ok (.result r)
      ∧ Session.Message.ofLine r.toJson.pretty = .ok (.result r))
    ∧ (∀ f : Failure, ReadsBack Failure.reader f.toJson f)
    ∧ (∀ e : SideEffect, ReadsBack SideEffect.reader e.toJson e)
    ∧ ∀ r : CellRequest, ReadsBack CellRequest.reader r.toJson r
  := by
  refine ⟨?_, ?_, ?_, ?_⟩
  · intro r
    have understands : reader.Understands maxDepth r.toJson r := r.understands_toJson 124
    have legible : Legible maxDepth r.toJson := r.legible_toJson 124
    refine ⟨understands.readsBack legible, ?_, ?_, ?_⟩
    · exact understands.read legible.written_pretty (List.forall_mem_singleton.mpr rfl)
    · apply Session.Message.ofLine_of_written legible.written_compact
    · apply Session.Message.ofLine_of_written legible.written_pretty
  · intro f
    exact (f.understands_toJson 126).readsBack (f.legible_toJson 126)
  · intro e
    exact (e.understands_toJson 126).readsBack (e.legible_toJson 126)
  · intro r
    exact (r.understands_toJson 126).readsBack (r.legible_toJson 126)

example : (SideEffect.mk "stdout".toList "\"\n".toList).toJson.compact
    = "\x7b\"what\":\"stdout\",\"content\":\"\\\"\\n\"\x7d".toList := by
  decide

end NotebookEngine
