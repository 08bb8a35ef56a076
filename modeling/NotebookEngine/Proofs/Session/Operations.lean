import NotebookEngine.Proofs.Session.Soundness

/-!
# The operation that a stage serves

Every stage but the idle one belongs to an operation that was taken up and not answered yet
(`Stage.Serves`), and `Run.serves` says that in a run it is the one the history tells of. So the
answers of an operation can be read off the transitions that answer (`Entry.Follows.answers`).
-/

namespace NotebookEngine

namespace Session

/-- A session is started with a runtime for one of these operations. -/
inductive Purpose.Serves : Text → Purpose → Operation → Prop
  | start {runtime : Text} : Serves runtime .start (.start runtime)
  | restart {runtime : Text} : Serves runtime .start .restart
  | execute {runtime code cellId : Text} :
    Serves runtime (.execute code cellId) (.execute code cellId runtime)

/-- A session is closed for one of these operations. -/
inductive Sequel.Serves : Sequel → Operation → Prop
  | shutdown : Serves (.answer .done) .shutdown
  | failed {op : Operation} {e : EngineError} (starts : op ≠ .shutdown) :
    Serves (.answer (.failed e)) op
  | start {runtime : Text} {purpose : Purpose} {op : Operation}
      (serves : purpose.Serves runtime op) : Serves (.start runtime purpose) op

/-- The operation that a manager in a stage works on, with the runtime it knows. A call is made with a
runtime that is the same path. -/
def Stage.Serves (runtime : Option Text) (op : Option Operation) : Stage → Prop
  | .idle => op = none
  | .closed next | .asking _ next | .leaving _ next | .killed _ next => ∃ o ∈ op, next.Serves o
  | .preparing path purpose | .spawning path purpose => ∃ o ∈ op, purpose.Serves path o
  | .greeting purpose => ∃ path ∈ runtime, ∃ o ∈ op, purpose.Serves path o
  | .calling code cellId =>
    ∃ known ∈ runtime, ∃ path, Text.SamePath known path ∧ op = some (.execute code cellId path)
  | .sending | .awaiting =>
    ∃ known ∈ runtime, ∃ path, Text.SamePath known path
      ∧ ∃ code cellId, op = some (.execute code cellId path)

variable {m m' : Manager} {mv : Move} {actions : List Action} {op : Option Operation}

namespace Manager

/-- Closing a session gives no answer. -/
theorem close_answer (m : Manager) (next : Sequel) :
  answerAmong? (m.close next).2 = none
  := by
  unfold close
  split
  · rfl
  · split <;> rfl

/-- Closing a session leads to a stage with the sequel. -/
theorem close_stage (m : Manager) (next : Sequel) :
  (m.close next).1.stage = .closed next
    ∨ ∃ l, (m.close next).1.stage = .leaving l next ∨ (m.close next).1.stage = .asking l next
  := by
  unfold close
  split
  case h_1 => exact .inl rfl
  case h_2 l _ =>
    split
    · exact .inr ⟨l, .inl rfl⟩
    · exact .inr ⟨l, .inr rfl⟩

/-- Closing a session serves what its sequel serves. -/
theorem close_serves {runtime : Option Text} {next : Sequel} {o : Operation}
    (serves : next.Serves o) :
  (m.close next).1.stage.Serves runtime (some o)
  := by
  rcases m.close_stage next with stage | ⟨l, stage | stage⟩
  all_goals
    rw [stage]
    exact ⟨o, rfl, serves⟩

end Manager

/-! ### Runs -/

/-- Closing serves the operation under way, or the one that is just taken up. -/
theorem Closes.serves {next : Sequel} (why : Closes m mv next)
    (serves : m.stage.Serves m.runtime op) :
  ∃ o ∈ (Entry.mk m mv m' actions).call?.or op, next.Serves o
  := by
  cases why with
  | start stage => exact ⟨_, by simp [Entry.call?, stage], .start .start⟩
  | execute stage => exact ⟨_, by simp [Entry.call?, stage], .start .execute⟩
  | restart stage => exact ⟨_, by simp [Entry.call?, stage], .start .restart⟩
  | shutdown stage => exact ⟨_, by simp [Entry.call?, stage], .shutdown⟩
  | lost own stage =>
      rw [stage] at serves
      obtain ⟨path, -, o, ho, serves⟩ := serves
      refine ⟨o, ?_, .failed ?_⟩
      · rwa [Entry.call?_of_own own, Option.none_or]
      · intro shutdown
        rw [shutdown] at serves
        cases serves
  | silent stage =>
      rw [stage] at serves
      obtain ⟨path, -, o, ho, serves⟩ := serves
      refine ⟨o, ?_, .failed ?_⟩
      · rwa [Entry.call?_of_own (.inr rfl), Option.none_or]
      · intro shutdown
        rw [shutdown] at serves
        cases serves

/-- What a process does has nothing to do with the operation under way. -/
theorem Manager.notice_serves (n : Nat) (o : Output) :
  (m.notice n o).stage.Serves (m.notice n o).runtime op ↔ m.stage.Serves m.runtime op
  := by
  cases stage : m.stage <;> simp only [Manager.notice, stage, Stage.Serves]

/-- A transition leads to a stage that serves the operation then under way. -/
theorem Transition.serves (step : Transition m mv m' actions)
    (serves : m.stage.Serves m.runtime op) :
  m'.stage.Serves m'.runtime ((Entry.mk m mv m' actions).carry op)
  := by
  cases step with
  | @ignored e call =>
      have none : (Entry.mk m (.hear e) m []).call? = none :=
        Entry.call?_of_busy fun op move => call op (Move.hear.inj move)
      rwa [Entry.carry_of_no_answer rfl, none, Option.none_or]
  | noticed => exact (Manager.notice_serves _ _).mpr serves
  | @closing _ next why =>
      obtain ⟨o, ho, hnext⟩ := why.serves serves
      rw [Entry.carry, Entry.answer?, m.close_answer next, ho]
      apply m.close_serves hnext
  | kept stage alive known fits =>
      refine ⟨_, known, _, fits, ?_⟩
      rw [Entry.carry_of_no_answer rfl]
      simp only [Entry.call?, stage, Option.some_or]
  | finished why => exact Entry.carry_of_answer rfl
  | left own stage reader =>
      rw [Entry.carry_of_no_answer rfl, Entry.call?_of_own own, Option.none_or]
      rcases stage with stage | stage
      all_goals
        rw [stage] at serves
        exact serves
  | preparing own stage | spawning own stage =>
      rw [Entry.carry_of_no_answer rfl, Entry.call?_of_own own, Option.none_or]
      rw [stage] at serves
      obtain ⟨o, ho, ⟨⟩⟩ := serves
      exact ⟨o, ho, ‹_›⟩
  | prepared stage =>
      rw [stage] at serves
      exact serves
  | spawned stage =>
      rw [stage] at serves
      exact ⟨_, rfl, serves⟩
  | greeted own stage live done =>
      rw [Entry.carry_of_no_answer rfl, Entry.call?_of_own own, Option.none_or]
      rw [stage] at serves
      obtain ⟨path, hpath, o, ho, ⟨⟩⟩ := serves
      exact ⟨path, hpath, path, .refl path, ho⟩
  | begun own stage live exited =>
      rw [Entry.carry_of_no_answer rfl, Entry.call?_of_own own, Option.none_or]
      rw [stage] at serves
      obtain ⟨known, hknown, path, same, hop⟩ := serves
      exact ⟨known, hknown, path, same, _, _, hop⟩
  | sent stage =>
      rw [stage] at serves
      exact serves
  | ended stage live why => exact Entry.carry_of_answer rfl
  | asked stage =>
      rw [stage] at serves
      exact serves
  | killed stage =>
      rw [stage] at serves
      rw [Entry.carry_of_no_answer (by split <;> rfl)]
      exact serves

/-- In a run, the stage serves the operation under way. -/
theorem Run.serves {c : KernelConfig} {h : History} (run : Run c h m) :
  m.stage.Serves m.runtime h.operation?
  := by
  induction run with
  | new => rfl
  | move _ follows serves =>
      rw [History.operation?_concat]
      exact follows.transition.serves serves

/-! ### Answers -/

/-- An entry that answers ends an operation, or a call with it. -/
theorem Entry.Follows.answers {e : Entry} {h : History} {a : Answer} (follows : e.Follows h)
    (answer : e.answer? = some a) :
  (Finishes e.before e.move a ∧ e.after = { e.before with stage := .idle })
    ∨ ∃ l, e.before.stage = .awaiting ∧ e.before.live = some l ∧ Ends e.before l e.move a
        ∧ e.after = { e.before with live := some { l with slot := l.slot.abandon }, stage := .idle }
  := by
  obtain ⟨m, mv, m', actions⟩ := e
  have step : Transition m mv m' actions := follows.transition
  cases step with
  | finished why =>
      obtain rfl := Option.some.inj answer
      exact .inl ⟨why, rfl⟩
  | ended stage live why =>
      obtain rfl := Option.some.inj answer
      exact .inr ⟨_, stage, live, why, rfl⟩
  | closing why => cases (m.close_answer _).symm.trans answer
  | killed =>
      simp only [Entry.answer?] at answer
      split at answer <;> cases answer
  | _ => cases answer

end Session

end NotebookEngine
