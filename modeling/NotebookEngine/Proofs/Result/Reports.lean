import NotebookEngine.Proofs.Json.Readers
import NotebookEngine.Report

/-!
# Reading reports

What the members of an object report: a value, or what was thrown (`Report.Told`). The members stand
in any order, and others may stand between them; what is thrown is an `Error` without a message and
without a stack where it does not say otherwise (`Thrown.Told`). A text that writes such an object is
read as that report (`Report.Told.ofText?`).
-/

namespace NotebookEngine

open Json

/-! ### What is told -/

/-- The values of the members of a name, in their order. -/
def Json.valuesOf (name : Text) (ms : List Member) : List Value :=
  (ms.filter fun m => m.1 = name).map Prod.snd

/-- The members of other names. -/
def Json.without (name : Text) (ms : List Member) : List Member :=
  ms.filter fun m => m.1 ≠ name

/-- Members tell what was thrown: each part of it is given once, as a text, or is left out. -/
inductive Thrown.Told (ms : List Member) : Thrown → Prop
  | intro {name message stack : Option Text}
    (name_eq : valuesOf "name".toList ms = name.toList.map .text)
    (message_eq : valuesOf "message".toList ms = message.toList.map .text)
    (stack_eq : valuesOf "stack".toList ms = stack.toList.map .text) :
    Told ms ⟨name.getD "Error".toList, message.getD [], stack.getD []⟩

/-- Members tell a report: they give its status once, and once what belongs to the status. The value
of a success may be left out. -/
inductive Report.Told (ms : List Member) : Report → Prop
  | ok {value : Option (Option Text)} (status : valuesOf tag ms = [Status.ok.toJson])
    (result : valuesOf "result".toList ms = value.toList.map (optional .text)) :
    Told ms (.ok (value.getD none))
  | error {fs : List Member} {thrown : Thrown} (status : valuesOf tag ms = [Status.error.toJson])
    (error : valuesOf "error".toList ms = [.object fs]) (told : Thrown.Told fs thrown) :
    Told ms (.error thrown)

/-- The status of a report. -/
def Report.status : Report → Status
  | .ok _ => .ok
  | .error _ => .error

theorem Report.Told.status {ms : List Member} {r : Report} (told : Report.Told ms r) :
  valuesOf tag ms = [r.status.toJson]
  := by
  cases told with
  | ok status => exact status
  | error status => exact status

namespace Json

theorem Written.text_eq {depth : Nat} {v : Value} {t s : Text} (written : Written depth v t)
    (same : v = .text s) :
  t = string s
  := by
  cases written <;> cases same
  rfl

variable {name : Text} {m : Member} {ms : List Member}

theorem valuesOf_own (own : m.1 = name) :
  valuesOf name (m :: ms) = m.2 :: valuesOf name ms
  := by
  simp [valuesOf, own]

theorem valuesOf_other (other : m.1 ≠ name) :
  valuesOf name (m :: ms) = valuesOf name ms
  := by
  simp [valuesOf, other]

theorem without_own (own : m.1 = name) :
  without name (m :: ms) = without name ms
  := by
  simp [without, own]

theorem without_other (other : m.1 ≠ name) :
  without name (m :: ms) = m :: without name ms
  := by
  simp [without, other]

/-- The members of one name do not count for another. -/
theorem valuesOf_without {other : Text} (differ : other ≠ name) :
  valuesOf other (without name ms) = valuesOf other ms
  := by
  rw [valuesOf, valuesOf, without, List.filter_filter]
  congr 2
  funext m
  by_cases own : m.1 = other
  · simp [own, differ]
  · simp [own]

/-! ### Fields from members in any order -/

/-- What a draft has of a field, or gets for it from the members of a name. -/
def Gets {α : Type} (take : Value → Except Misfit α) (held : Option α) (name : Text)
    (ms : List Member) (got : Option α) : Prop :=
  held.toList.map .ok ++ (valuesOf name ms).map take = got.toList.map .ok

namespace Gets

variable {α : Type} {take : Value → Except Misfit α} {held got : Option α} {v : Value}

theorem eq_of_nil (gets : Gets take held name [] got) :
  held = got
  := by
  cases held <;> cases got <;> simp_all [Gets, valuesOf]

theorem other (gets : Gets take held name (m :: ms) got) (differ : m.1 ≠ name) :
  Gets take held name ms got
  := by
  rwa [Gets, valuesOf_other differ] at gets

/-- The draft gets a field that it lacks from the first member of the name. -/
theorem own (gets : Gets take held name ((name, v) :: ms) got) :
  held = none ∧ ∃ a, take v = .ok a ∧ Gets take (some a) name ms got
  := by
  rw [Gets, valuesOf_own (m := (name, v)) rfl, List.map_cons] at gets
  cases held with
  | some b => cases got <;> simp at gets
  | none =>
      cases got with
      | none => simp at gets
      | some a =>
          obtain ⟨took, rest⟩ := List.cons.inj gets
          refine ⟨rfl, a, took, ?_⟩
          rw [Gets, rest]
          rfl

end Gets

namespace Record

variable {σ α β : Type} {manner : Manner}

theorem takeNamed_unknown {r : Record σ α} (draft : σ)
    (unknown : r.fields.find? (fun f => f.name = m.1) = none) :
  r.takeNamed manner draft (m :: ms) = r.takeNamed manner draft ms
  := by
  rw [takeNamed]
  simp only [unknown]

theorem takeNamed_known {r : Record σ α} {draft : σ} {f : Field σ} {set : σ → σ}
    (known : r.fields.find? (fun f => f.name = m.1) = some f) (lacked : f.filled draft = false)
    (took : f.read.take manner m.2 = .ok set) :
  r.takeNamed manner draft (m :: ms) = r.takeNamed manner (set draft) ms
  := by
  rw [takeNamed]
  simp [known, lacked, took]

/-- The one field of a record is taken from the one member of its name. -/
theorem takeNamed_single {r : Record (Option β) α} {required : Bool} {read : Reader β}
    (fields : r.fields = [⟨name, required, Option.isSome, read.map fun b _ => some b⟩])
    {held got : Option β} (gets : Gets (read.take manner) held name ms got) :
  r.takeNamed manner held ms = .ok got
  := by
  induction ms generalizing held with
  | nil =>
      rw [gets.eq_of_nil]
      rfl
  | cons m ms ih =>
      obtain ⟨n, v⟩ := m
      by_cases own : n = name
      case pos =>
        subst own
        obtain ⟨rfl, b, took, gets⟩ := gets.own
        have known : r.fields.find? (fun f => f.name = n)
            = some ⟨n, required, Option.isSome, read.map fun b _ => some b⟩ := by
          simp [fields]
        have set : (read.map fun b (_ : Option β) => some b).take manner v
            = .ok fun _ => some b := congrArg (Except.map fun b _ => some b) took
        rw [takeNamed_known known rfl set]
        exact ih gets
      case neg =>
        have unknown : r.fields.find? (fun f => f.name = n) = none := by
          simp [fields, Ne.symm own]
        rw [takeNamed_unknown held unknown]
        exact ih (gets.other own)

end Record

end Json

namespace Thrown

variable {manner : Manner} {ms : List Member}

theorem unknown {name : Text} (noName : name ≠ "name".toList) (noMessage : name ≠ "message".toList)
    (noStack : name ≠ "stack".toList) :
  record.fields.find? (fun f => f.name = name) = none
  := by
  have names : record.fields.map Field.name = ["name".toList, "message".toList, "stack".toList] := rfl
  rw [List.find?_eq_none]
  intro f stands same
  have known : name ∈ record.fields.map Field.name := by
    rw [← of_decide_eq_true same]
    exact List.mem_map_of_mem stands
  rw [names, List.mem_cons, List.mem_cons, List.mem_singleton] at known
  rcases known with isName | isMessage | isStack
  · exact noName isName
  · exact noMessage isMessage
  · exact noStack isStack

/-- The parts of what is thrown are taken from the members of their names. -/
theorem takeNamed {d e : Draft} (name : Gets (textReader.take manner) d.name "name".toList ms e.name)
    (message : Gets (textReader.take manner) d.message "message".toList ms e.message)
    (stack : Gets (textReader.take manner) d.stack "stack".toList ms e.stack) :
  record.takeNamed manner d ms = .ok e
  := by
  have noMessage : "name".toList ≠ "message".toList := by decide
  have noStack : "name".toList ≠ "stack".toList := by decide
  have differ : "message".toList ≠ "stack".toList := by decide
  induction ms generalizing d with
  | nil =>
      obtain ⟨n, s, t⟩ := d
      obtain rfl := name.eq_of_nil
      obtain rfl := message.eq_of_nil
      obtain rfl := stack.eq_of_nil
      rfl
  | cons m ms ih =>
      obtain ⟨n, v⟩ := m
      by_cases isName : n = "name".toList
      case pos =>
        subst isName
        obtain ⟨lacked, s, took, name⟩ := name.own
        have known : record.fields.find? (fun f => f.name = "name".toList)
            = some ⟨"name".toList, false, fun d => d.name.isSome,
              textReader.map fun s d => { d with name := some s }⟩ := rfl
        have set := congrArg (Except.map fun s (d : Draft) => { d with name := some s }) took
        rw [Record.takeNamed_known known (congrArg Option.isSome lacked) set]
        exact ih name (message.other noMessage) (stack.other noStack)
      by_cases isMessage : n = "message".toList
      case pos =>
        subst isMessage
        obtain ⟨lacked, s, took, message⟩ := message.own
        have known : record.fields.find? (fun f => f.name = "message".toList)
            = some ⟨"message".toList, false, fun d => d.message.isSome,
              textReader.map fun s d => { d with message := some s }⟩ := rfl
        have set := congrArg (Except.map fun s (d : Draft) => { d with message := some s }) took
        rw [Record.takeNamed_known known (congrArg Option.isSome lacked) set]
        exact ih (name.other isName) message (stack.other differ)
      by_cases isStack : n = "stack".toList
      case pos =>
        subst isStack
        obtain ⟨lacked, s, took, stack⟩ := stack.own
        have known : record.fields.find? (fun f => f.name = "stack".toList)
            = some ⟨"stack".toList, false, fun d => d.stack.isSome,
              textReader.map fun s d => { d with stack := some s }⟩ := rfl
        have set := congrArg (Except.map fun s (d : Draft) => { d with stack := some s }) took
        rw [Record.takeNamed_known known (congrArg Option.isSome lacked) set]
        exact ih (name.other isName) (message.other isMessage) stack
      rw [Record.takeNamed_unknown d (unknown isName isMessage isStack)]
      exact ih (name.other isName) (message.other isMessage) (stack.other isStack)

/-- A part that a member gives as a text is had from it. -/
theorem gets_text {name : Text} {given : Option Text}
    (values : valuesOf name ms = given.toList.map .text) (manner : Manner) :
  Gets (textReader.take manner) none name ms given
  := by
  rw [Gets, values]
  cases given <;> rfl

/-- What is thrown is taken from an object that tells it. -/
theorem Told.take {t : Thrown} (told : Told ms t) (manner : Manner) :
  record.take manner (.object ms) = .ok t
  := by
  cases told with
  | @intro name message stack name_eq message_eq stack_eq =>
      have took : record.takeNamed manner record.empty ms = .ok ⟨name, message, stack⟩ :=
        takeNamed (gets_text name_eq manner) (gets_text message_eq manner)
          (gets_text stack_eq manner)
      simp only [Record.take, took]
      rfl

end Thrown

namespace Report

variable {ms : List Member} {r : Report}

/-- A report is made of its status and of an object that has the members beside it. -/
theorem Told.ofContent (told : Told ms r) :
  Report.ofContent r.status (.object (without tag ms)) = .ok r
  := by
  cases told with
  | @ok value _ result =>
      have took : okRecord.takeNamed .sequence none (without tag ms) = .ok value := by
        apply Record.takeNamed_single rfl
        rw [Gets, valuesOf_without (by decide), result]
        cases value with
        | none => rfl
        | some v => cases v <;> rfl
      exact congrArg (· >>= okRecord.close) took
  | @error fs thrown _ error told =>
      have took : errorRecord.takeNamed .sequence none (without tag ms)
          = .ok (some thrown) := by
        apply Record.takeNamed_single rfl
        rw [Gets, valuesOf_without (by decide), error]
        exact congrArg (fun t => [t]) (told.take .sequence)
      exact congrArg (· >>= errorRecord.close) took

/-! ### The status among the members -/


theorem toJson_injective :
  Function.Injective Status.toJson
  := by
  intro s t same
  cases s <;> cases t <;> first | rfl | exact absurd (congrArg Value.text? same) (by decide)

/-- The name of a status is read. -/
theorem takes_status (s : Status) :
  Takes (scanName [(Status.ok.name, Status.ok), (Status.error.name, .error)]) (string s.name) s
  := by
  intro gap rest before
  have stands : named [(Status.ok.name, Status.ok), (Status.error.name, .error)] s.name = .ok s := by
    cases s <;> rfl
  simp [scanName, string, skipGap_append before, skipGap_cons, isGap, scanString_string, stands]

/-- The members of an object that gives one status are read up to the closing brace, the status apart
from the others. -/
theorem scanTagged_written {depth fuel : Nat} (first : Bool) (given : Option Status)
    {es : List Entry} {s : Status}
    (status : given.toList.map Status.toJson ++ valuesOf tag (es.map Entry.member) = [s.toJson])
    (gapped : ∀ e ∈ es, e.Gapped) (written : ∀ e ∈ es, Written depth e.item.value e.item.text)
    (enough : es.length < fuel) {gap closing : Text} (blank : Gap gap) (blank' : Gap closing)
    (others : List Member) (rest : Text) :
  ∃ gap', Gap gap' ∧ scanTagged depth fuel first given others
      (gap ++ (commas first (es.map Entry.shape) ++ (closing ++ '\x7d' :: rest)))
    = .ok ((some s, others.reverse ++ without tag (es.map Entry.member)),
      gap' ++ '\x7d' :: rest)
  := by
  induction es generalizing first fuel gap given others with
  | nil =>
      obtain ⟨n, rfl⟩ := Nat.exists_eq_add_one.mpr enough
      have blanks := blank.append blank'
      use gap ++ closing, blanks
      obtain rfl : given = some s := by
        cases given with
        | none => cases status
        | some t => rw [toJson_injective (List.cons.inj status).1]
      rw [List.map_nil, commas, List.nil_append, ← List.append_assoc, scanTagged]
      simp only [nextKey?_end first blanks, List.map_nil, without, List.filter_nil, List.append_nil]
  | cons e es ih =>
      obtain ⟨n, rfl⟩ := Nat.exists_eq_add_one.mpr (Nat.zero_lt_of_lt enough)
      rw [List.forall_mem_cons] at gapped written
      obtain ⟨own, gapped⟩ := gapped
      have enough := Nat.lt_of_succ_lt_succ enough
      rw [List.map_cons, append_commas, Entry.shape, List.append_assoc, List.append_assoc,
        List.append_assoc, List.cons_append, scanTagged, nextKey?_lead first blank own.before]
      by_cases isTag : e.name = tag
      case pos =>
        rw [List.map_cons, valuesOf_own (m := e.member) isTag] at status
        obtain rfl : given = none := by
          cases given with
          | none => rfl
          | some t => cases (List.cons.inj status).2
        obtain ⟨value, alone⟩ := List.cons.inj status
        have status : (some s).toList.map Status.toJson ++ valuesOf tag (es.map Entry.member)
            = [s.toJson] := congrArg (s.toJson :: ·) alone
        obtain ⟨gap', blanks, scanned⟩ := ih false (some s) status gapped written.2 enough
          own.item.after others
        use gap', blanks
        have take : Takes (scanName [(Status.ok.name, Status.ok), (Status.error.name, .error)])
            e.item.text s := by
          rw [written.1.text_eq value]
          exact takes_status s
        simp only [isTag, ↓reduceIte, Option.isSome_none, Bool.false_eq_true, e.scanItem own take]
        rw [List.map_cons, without_own (m := e.member) isTag]
        exact scanned
      case neg =>
        rw [List.map_cons, valuesOf_other (m := e.member) isTag] at status
        obtain ⟨gap', blanks, scanned⟩ := ih false given status gapped written.2 enough
          own.item.after (e.member :: others)
        use gap', blanks
        simp only [isTag, ↓reduceIte, e.scanItem own written.1.scanValue]
        rw [List.reverse_cons, List.append_assoc] at scanned
        rw [List.map_cons, without_other (m := e.member) isTag]
        exact scanned

/-- The status and the other members of an object are read from a text that writes it. -/
theorem Told.scanParts (told : Told ms r) {depth : Nat} {t : Text}
    (written : Written (depth + 1) (.object ms) t) (rest : Text) :
  Report.scanParts depth (t ++ rest) = .ok ((r.status, .object (without tag ms)), rest)
  := by
  obtain _ | _ | _ | _ | @⟨_, es, closing, gapped, members, blank⟩ := written
  have length := Entry.length_le es
  have enough : es.length
      < (commas true (es.map Entry.shape) ++ (closing ++ '\x7d' :: rest)).length + 1 := by
    rw [List.length_append]
    omega
  obtain ⟨gap', blank', scanned⟩ :=
    scanTagged_written true none told.status gapped members enough gap_nil blank [] rest
  rw [List.nil_append] at scanned
  rw [List.cons_append, List.append_assoc, List.append_assoc, List.singleton_append]
  simp only [Report.scanParts, skipGap_cons (show isGap '\x7b' = false from rfl), scanned,
    endObject_gap blank', List.reverse_nil, List.nil_append]

/-- A report is read from a text that writes an object which tells it. -/
theorem Told.ofText? (told : Told ms r) {t gap : Text} (written : Written maxDepth (.object ms) t)
    (blank : Gap gap) :
  Report.ofText? (t ++ gap) = some r
  := by
  have read : reader.read (t ++ gap) = .ok r := by
    have parts : Report.scanParts (maxDepth - 1) (t ++ gap)
        = .ok ((r.status, .object (without tag ms)), gap) := told.scanParts written gap
    simp only [Reader.read, reader, parts, told.ofContent, skipGap_gap blank]
  simp only [Report.ofText?, read]

end Report

end NotebookEngine
