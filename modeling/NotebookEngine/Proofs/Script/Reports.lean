import NotebookEngine.Proofs.Backend.Verdicts
import NotebookEngine.Proofs.Json.Units

/-!
# Reports that scripts leave

A script leaves a report of what came of its fragment (`Script.Outcome`), in strings of code units. It
is read as what it tells if all its strings are those of texts, and is not read at all if one of them
has half of a pair without the other half (`Script.Outcome.ofText?_text`). So a script that throws
something with such a string is taken for one that left no report.
-/

namespace NotebookEngine

namespace Script

open Json

/-- What comes of a fragment: a value as it is shown, or none, or something thrown. -/
inductive Outcome where
  | value (value : Option Units)
  | thrown (name message stack : Units)

/-- A member of an object without gaps. -/
def memberText (name : Text) (value : Text) : Text :=
  string name ++ ':' :: value

/-- An object without gaps. -/
def objectText (members : List Text) : Text :=
  '\x7b' :: (commas true members ++ ['\x7d'])

namespace Outcome

/-- A fragment that throws nothing is a success. -/
def status : Outcome → Status
  | .value _ => .ok
  | .thrown _ _ _ => .error

/-- The strings of the report. -/
def strings : Outcome → List Units
  | .value v => v.toList
  | .thrown name message stack => [name, message, stack]

/-- The name of what is reported beside the status. -/
def contentName : Outcome → Text
  | .value _ => "result".toList
  | .thrown _ _ _ => "error".toList

/-- What is reported beside the status. -/
def contentText : Outcome → Text
  | .value none => "null".toList
  | .value (some us) => unitsString us
  | .thrown name message stack =>
    objectText [memberText "name".toList (unitsString name),
      memberText "message".toList (unitsString message),
      memberText "stack".toList (unitsString stack)]

/-- The report that a script leaves. -/
def text (o : Outcome) : Text :=
  objectText [memberText Report.tag (string o.status.name), memberText o.contentName o.contentText]

/-- What the report tells, if its strings are those of texts. -/
def report? : Outcome → Option Report
  | .value none => some (.ok none)
  | .value (some us) => us.text?.map fun t => .ok (some t)
  | .thrown name message stack =>
    match name.text?, message.text?, stack.text? with
    | some name, some message, some stack => some (.error ⟨name, message, stack⟩)
    | _, _, _ => none

end Outcome

/-! ### Reports that are read -/

theorem compact_object (ms : List Member) :
  (Value.object ms).compact = objectText (ms.map fun m => memberText m.1 m.2.compact)
  := by
  rw [Value.compact, compactMembers_eq]
  rfl

theorem Outcome.written_of_content {o : Outcome} {v : Value} (legible : Legible (maxDepth - 1) v)
    (shape : o.contentText = v.compact) :
  Written maxDepth (.object [(Report.tag, o.status.toJson), (o.contentName, v)]) o.text
  := by
  have members : ∀ m ∈ [(Report.tag, o.status.toJson), (o.contentName, v)],
      Legible (maxDepth - 1) m.2 := by
    simp only [List.forall_mem_cons]
    exact ⟨.text, legible, nofun⟩
  have written := (Legible.object members).written_compact
  rw [compact_object] at written
  rw [Outcome.text, shape]
  exact written

/-- A report whose strings are those of texts writes an object that tells it. -/
theorem Outcome.exists_written {o : Outcome} {r : Report} (tells : o.report? = some r) :
  ∃ ms, Written maxDepth (.object ms) o.text ∧ Report.Told ms r
  := by
  match o with
  | .value none =>
      cases tells
      exact ⟨_, written_of_content .null rfl, @Report.Told.ok _ (some none) rfl rfl⟩
  | .value (some us) =>
      obtain ⟨t, text, rfl⟩ := Option.map_eq_some_iff.mp tells
      exact ⟨_, written_of_content .text (unitsString_eq text),
        @Report.Told.ok _ (some (some t)) rfl rfl⟩
  | .thrown name message stack =>
      rw [Outcome.report?] at tells
      split at tells
      case h_2 => nomatch tells
      case h_1 n t k name_eq message_eq stack_eq =>
        cases tells
        have shape : (Outcome.thrown name message stack).contentText
            = (Value.object [("name".toList, .text n), ("message".toList, .text t),
              ("stack".toList, .text k)]).compact := by
          rw [compact_object, contentText, unitsString_eq name_eq, unitsString_eq message_eq,
            unitsString_eq stack_eq]
          rfl
        have members : ∀ m ∈ [("name".toList, Value.text n), ("message".toList, .text t),
            ("stack".toList, .text k)], Legible (maxDepth - 2) m.2 := by
          simp only [List.forall_mem_cons]
          exact ⟨.text, .text, .text, nofun⟩
        exact ⟨_, written_of_content (.object members) shape,
          .error rfl rfl (@Thrown.Told.intro _ (some n) (some t) (some k) rfl rfl rfl)⟩

/-! ### Reports that are not read -/

theorem nextKey?_member (first : Bool) (name t s : Text) :
  nextKey? first (lead first [] (memberText name t ++ s)) = .ok (some (name, ':' :: (t ++ s)))
  := by
  rw [memberText, List.append_assoc, List.cons_append]
  exact nextKey?_lead first gap_nil gap_nil name _

/-- What stands after the colon of a member is read, or refused. -/
theorem scanColon_bind {α : Type} (item : Scan α) (s : Text) :
  (scanColon (':' :: s) >>= item) = item s
  := by
  rw [show scanColon (':' :: s) = .ok s from scanColon_gap gap_nil s]
  rfl

/-- The members of an object are not read to the end if one of them has a string that is refused. -/
theorem scanMembers_units {ms : List (Text × Units)} (lone : ∃ m ∈ ms, m.2.text? = none)
    (depth fuel : Nat) (first : Bool) (read : List Member) (rest : Text) :
  ∃ e, scanMembers (scanValue depth) fuel first read
      (commas first (ms.map fun m => memberText m.1 (unitsString m.2)) ++ rest) = .error e
  := by
  induction ms generalizing fuel first read with
  | nil =>
      obtain ⟨_, stands, -⟩ := lone
      nomatch stands
  | cons m ms ih =>
      cases fuel with
      | zero => exact ⟨_, rfl⟩
      | succ fuel =>
          rw [List.map_cons, ← List.nil_append (commas _ _ ++ _), append_commas, scanMembers,
            nextKey?_member]
          simp only [scanColon_bind]
          cases text : m.2.text? with
          | none =>
              obtain ⟨e, stopped⟩ := refuses_units text depth []
                (commas false (ms.map fun m => memberText m.1 (unitsString m.2)) ++ rest) gap_nil
              rw [List.nil_append] at stopped
              rw [stopped]
              exact ⟨e, rfl⟩
          | some t =>
              have taken := takes_units text depth []
                (commas false (ms.map fun m => memberText m.1 (unitsString m.2)) ++ rest) gap_nil
              rw [List.nil_append] at taken
              rw [taken]
              apply ih
              rw [List.exists_mem_cons_iff] at lone
              exact lone.resolve_left (by simp [text])

/-- So the object is refused. -/
theorem refuses_object {ms : List (Text × Units)} (lone : ∃ m ∈ ms, m.2.text? = none)
    (depth : Nat) :
  Refuses (scanValue (depth + 1)) (objectText (ms.map fun m => memberText m.1 (unitsString m.2)))
  := by
  intro gap rest before
  rw [objectText, List.cons_append, List.append_assoc, scanValue]
  simp only [skipGap_append before, skipGap_cons (show isGap '\x7b' = false from rfl)]
  obtain ⟨e, stopped⟩ := scanMembers_units lone depth
    ((commas true (ms.map fun m => memberText m.1 (unitsString m.2)) ++ (['\x7d'] ++ rest)).length + 1)
    true [] (['\x7d'] ++ rest)
  rw [stopped]
  exact ⟨e, rfl⟩

/-- The members of a report are not read to the end if its content is refused. -/
theorem scanTagged_refused {depth : Nat} {s : Status} {name t : Text} (other : name ≠ Report.tag)
    (refuses : Refuses (scanValue depth) t) (fuel : Nat) (rest : Text) :
  ∃ e, Report.scanTagged depth fuel true none []
      (commas true [memberText Report.tag (string s.name), memberText name t] ++ rest) = .error e
  := by
  cases fuel with
  | zero => exact ⟨_, rfl⟩
  | succ fuel =>
      have status := Report.takes_status s [] (commas false [memberText name t] ++ rest) gap_nil
      rw [List.nil_append] at status
      rw [← List.nil_append (commas _ _ ++ _), append_commas, Report.scanTagged, nextKey?_member]
      simp only [↓reduceIte, Option.isSome_none, Bool.false_eq_true, scanColon_bind, status]
      cases fuel with
      | zero => exact ⟨_, rfl⟩
      | succ fuel =>
          obtain ⟨e, stopped⟩ := refuses [] (commas false [] ++ rest) gap_nil
          rw [List.nil_append] at stopped
          rw [← List.nil_append (commas _ _ ++ _), append_commas, Report.scanTagged, nextKey?_member]
          simp only [other, ↓reduceIte, scanColon_bind, stopped]
          exact ⟨e, rfl⟩

/-- A report whose content is refused is not read. -/
theorem Outcome.ofText?_refused {o : Outcome}
    (refuses : Refuses (scanValue (maxDepth - 1)) o.contentText) :
  Report.ofText? o.text = none
  := by
  have other : o.contentName ≠ Report.tag := by
    have value : "result".toList ≠ Report.tag := by decide
    have thrown : "error".toList ≠ Report.tag := by decide
    cases o with
    | value => exact value
    | thrown => exact thrown
  obtain ⟨e, stopped⟩ := scanTagged_refused (s := o.status) other refuses
    ((commas true [memberText Report.tag (string o.status.name),
      memberText o.contentName o.contentText] ++ ['\x7d']).length + 1) ['\x7d']
  have parts : Report.scanParts (maxDepth - 1) o.text = .error e := by
    rw [Outcome.text, objectText, Report.scanParts]
    simp only [skipGap_cons (show isGap '\x7b' = false from rfl), stopped]
  simp only [Report.ofText?, Reader.read, Report.reader, parts]

theorem Outcome.report?_eq_none_iff {o : Outcome} :
  o.report? = none ↔ ∃ us ∈ o.strings, us.text? = none
  := by
  match o with
  | .value none => simp [report?, strings]
  | .value (some us) => simp [report?, strings]
  | .thrown name message stack =>
      cases nameText : name.text? <;> cases messageText : message.text? <;>
        cases stackText : stack.text? <;> simp [report?, strings, nameText, messageText, stackText]

theorem Outcome.refuses_content {o : Outcome} (lone : ∃ us ∈ o.strings, us.text? = none) :
  Refuses (scanValue (maxDepth - 1)) o.contentText
  := by
  match o with
  | .value none =>
      obtain ⟨_, stands, -⟩ := lone
      nomatch stands
  | .value (some us) =>
      obtain ⟨us', stands, lone⟩ := lone
      obtain rfl := List.mem_singleton.mp stands
      exact refuses_units lone _
  | .thrown name message stack =>
      have lone : ∃ m ∈ [("name".toList, name), ("message".toList, message),
          ("stack".toList, stack)], m.2.text? = none := by simpa [strings] using lone
      exact refuses_object lone _

/-- A report is read as what it tells, and not at all if it has a string that is none of a text. -/
theorem Outcome.ofText?_text (o : Outcome) :
  Report.ofText? o.text = o.report?
  := by
  cases tells : o.report? with
  | none => exact ofText?_refused (refuses_content (report?_eq_none_iff.mp tells))
  | some r =>
      obtain ⟨ms, written, told⟩ := exists_written tells
      have read := told.ofText? written gap_nil
      rwa [List.append_nil] at read

theorem Outcome.status_of_report? {o : Outcome} {r : Report} (tells : o.report? = some r) :
  r.status = o.status
  := by
  match o with
  | .value none =>
      cases tells
      rfl
  | .value (some us) =>
      obtain ⟨t, -, rfl⟩ := Option.map_eq_some_iff.mp tells
      rfl
  | .thrown name message stack =>
      rw [report?] at tells
      split at tells
      case h_1 =>
        cases tells
        rfl
      case h_2 => nomatch tells

/-- What becomes of the reports of scripts. The report of a script is read as what it tells, with its
status, if all its strings are those of texts; it is not read at all if one of them has half of a pair
without the other half. A script that exits with code zero then has the result of one that left no
report, even if it threw something. -/
theorem Outcome.reports_read (o : Outcome) :
  Report.ofText? o.text = o.report?
    ∧ (∀ r, o.report? = some r → r.status = o.status)
    ∧ (o.report? = none ↔ ∃ us ∈ o.strings, ∃ u, .lone u ∈ codePoints us)
    ∧ (∀ name message stack : Text, o = .thrown (.ofText name) (.ofText message) (.ofText stack) →
      o.report? = some (.error ⟨name, message, stack⟩))
    ∧ ∀ d config runtime id code cellId xs r output,
      (Scripted.planOf d config (some runtime) id code cellId).Dialogue xs r →
      .ok output ∈ Plan.endings (Scripted.runStep d config runtime id) xs →
      output.ending = .exited (.code 0) →
      Plan.readings (Scripted.resultPath d config id) xs = [.ok o.text] →
        r = match o.report? with
          | some report => report.result cellId output
          | none => Report.missing cellId output
  := by
  refine ⟨o.ofText?_text, fun r => status_of_report?, ?_, ?_, ?_⟩
  case refine_1 => simp only [report?_eq_none_iff, Units.text?, textOf?_eq_none_iff]
  case refine_2 =>
    rintro name message stack rfl
    simp only [report?, text?_ofText]
  case refine_3 =>
    intro d config runtime id code cellId xs r output dialogue ran success read
    have reads : ∀ answer ∈ Plan.readings (Scripted.resultPath d config id) xs,
        answer = .ok o.text := by simp [read]
    have goes := Scripted.goes_of_dialogue dialogue reads
    have reported : Scripted.reported (.ok o.text) = o.report? := o.ofText?_text
    have outcome := goes.eq_judged ran
    rw [Scripted.judged_success success, reported] at outcome
    exact outcome.trans (by cases o.report? <;> rfl)

/-- Not every report of a script is read: that of a script that throws something with one half of a
pair as its message is not. -/
theorem Outcome.not_always_read :
  ¬∀ o : Outcome, ∃ r, Report.ofText? o.text = some r ∧ r.status = o.status
  := by
  intro all
  obtain ⟨r, read, -⟩ := all (.thrown (.ofText "Error".toList) [0xD800] [])
  rw [ofText?_text] at read
  nomatch read

end Script

end NotebookEngine
