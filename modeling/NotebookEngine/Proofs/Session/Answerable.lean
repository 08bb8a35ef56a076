import NotebookEngine.Proofs.Session.Operations

/-!
# Operations that can still be answered

Whatever an operation waits for may come: the script and the process may fail to, a line may be
written, the time allowed may be over, and a process may leave and its exit be recorded. So there is
no stage in which an operation is stuck: every busy manager of a run is `Answerable`, by moves that
are no calls and start nothing.
-/

namespace NotebookEngine

namespace Session

variable {m : Manager} {l : Live} {next : Sequel} {runtime code cellId : Text} {purpose : Purpose}

/-- The move takes up nothing and starts no process. -/
def Move.isPlain : Move → Bool
  | .hear (.call _) | .hear (.spawned (.ok _)) => false
  | _ => true

/-- An answer can be given after some plain moves. -/
inductive Manager.Answerable : Manager → Prop
  | now {m : Manager} (mv : Move) (step : Manager.Step) (a : Answer) (plain : mv.isPlain = true)
      (possible : m.move? mv = some step) (answer : answerAmong? step.2 = some a) : Answerable m
  | later {m : Manager} (mv : Move) (step : Manager.Step) (plain : mv.isPlain = true)
      (possible : m.move? mv = some step) (answer : answerAmong? step.2 = none)
      (next : step.1.Answerable) : Answerable m

namespace Manager.Answerable

/-- A script that cannot be put in place ends the operation. -/
theorem of_preparing (stage : m.stage = .preparing runtime purpose) :
  m.Answerable
  := by
  apply now (.hear (.prepared (.error .notFound))) (m.finish (.failed (.io .notFound))) _ rfl
  · simp only [move?, receive, stage]
  · rfl

/-- A process that cannot be started ends the operation. -/
theorem of_spawning (stage : m.stage = .spawning runtime purpose) :
  m.Answerable
  := by
  apply now (.hear (.spawned (.error .notFound)))
    (m.finish (.failed (.kernelStartup (.spawn runtime .notFound)))) _ rfl
  · simp only [move?, receive, stage]
  · rfl

/-- After a session is closed, the answer is given, or a process is to be started. -/
theorem of_closed (stage : m.stage = .closed next) :
  m.Answerable
  := by
  have possible : m.move? .proceed = some (m.follow next) := by simp only [move?, proceed, stage]
  cases next with
  | answer a => exact now _ _ a rfl possible rfl
  | start runtime purpose =>
      simp only [follow, prepare] at possible
      split at possible
      · exact later _ _ rfl possible rfl (of_spawning rfl)
      · exact later _ _ rfl possible rfl (of_spawning rfl)
      · exact later _ _ rfl possible rfl (of_preparing rfl)

/-- A manager whose session is to leave listens to its process. -/
theorem notice_of_leaving (stage : m.stage = .leaving l next ∨ m.stage = .killed l next) (o : Output) :
  (m.notice l.process o).stage = .leaving (l.hear l.process o) next
    ∨ (m.notice l.process o).stage = .killed (l.hear l.process o) next
  := by
  rcases stage with stage | stage
  · exact .inl (by simp only [notice, stage])
  · exact .inr (by simp only [notice, stage])

/-- The parts of an exit can be recorded one after the other, and then the session is closed. -/
theorem of_recording {code : Option Int} {left : List ExitPart}
    (stage : m.stage = .leaving l next ∨ m.stage = .killed l next)
    (reader : l.reader = .recording code left) :
  m.Answerable
  := by
  induction left generalizing m l with
  | nil =>
      apply later .proceed (m.goTo (.closed next)) rfl _ rfl (of_closed rfl)
      rcases stage with stage | stage
      all_goals simp [move?, proceed, stage, reader, Reader.isDone]
  | cons p left ih =>
      apply later (.hear (.output l.process .recorded)) _ rfl rfl rfl
      apply ih (notice_of_leaving stage .recorded)
      simp [Live.hear, Live.notice, reader]

/-- A process whose output is not read any more can leave. -/
theorem of_reaping (stage : m.stage = .leaving l next ∨ m.stage = .killed l next)
    (reader : l.reader = .reaping) :
  m.Answerable
  := by
  apply later (.hear (.output l.process (.exited none))) _ rfl rfl rfl
  have left : (l.hear l.process (.exited none)).reader = .recording none ExitPart.all := by
    simp [Live.hear, Live.notice, reader]
  exact of_recording (notice_of_leaving stage (.exited none)) left

/-- A process that is to leave can end its output, and leave. -/
theorem of_leaving (stage : m.stage = .leaving l next ∨ m.stage = .killed l next) :
  m.Answerable
  := by
  cases reader : l.reader with
  | reading =>
      apply later (.hear (.output l.process .ended)) _ rfl rfl rfl
      apply of_reaping (notice_of_leaving stage .ended)
      simp [Live.hear, Live.notice, reader, Reader.stop]
  | reaping => exact of_reaping stage reader
  | recording code left => exact of_recording stage reader

/-- The request to shut down can be written. -/
theorem of_asking (stage : m.stage = .asking l next) :
  m.Answerable
  := by
  apply later (.hear (.written true)) (m.goDoing (.leaving l next) [.closeInput]) rfl
  · simp only [move?, receive, stage]
  · rfl
  · exact of_leaving (.inl rfl)

/-- A session that is being closed can be. -/
theorem of_close (m : Manager) (next : Sequel) :
  (m.close next).1.Answerable
  := by
  rcases m.close_stage next with stage | ⟨l, stage | stage⟩
  · exact of_closed stage
  · exact of_leaving (.inl stage)
  · exact of_asking stage

/-- A call is over with its reply, or when the time allowed is. -/
theorem of_awaiting (stage : m.stage = .awaiting) (live : m.live = some l) :
  m.Answerable
  := by
  have possible : ∃ a, m.move? (.hear .expired) = some (m.endCall l a) := by
    cases call : l.slot.call <;> simp [move?, receive, proceed, expire, stage, live, call]
  obtain ⟨a, possible⟩ := possible
  exact now _ _ a rfl possible rfl

/-- A request can be written. -/
theorem of_sending (stage : m.stage = .sending) (live : m.live = some l) :
  m.Answerable
  := by
  apply later (.hear (.written true)) (m.goTo .awaiting) rfl
  · simp only [move?, receive, stage]
  · rfl
  · exact of_awaiting rfl live

/-- A call begins, or the process has left. -/
theorem of_calling (stage : m.stage = .calling code cellId) (live : m.live = some l) :
  m.Answerable
  := by
  have possible : m.move? .proceed = some (m.beginCall code cellId) := by
    simp only [move?, proceed, stage]
  simp only [beginCall, live] at possible
  cases begins : l.slot.begin? cellId with
  | error e =>
      simp only [begins] at possible
      exact now _ _ (.failed e) rfl possible rfl
  | ok slot =>
      simp only [begins] at possible
      exact later _ _ rfl possible rfl (of_sending rfl rfl)

/-- A session announces itself, or it is closed. -/
theorem of_greeting (stage : m.stage = .greeting purpose) (live : m.live = some l) :
  m.Answerable
  := by
  have possible : m.move? (.hear .expired) = some (m.proceed.getD m.expire) := rfl
  cases handshake : l.slot.handshake with
  | waiting =>
      have waits : m.proceed = none := by simp only [proceed, stage, live, handshake]
      simp only [waits, Option.getD_none, expire, stage] at possible
      exact later _ _ rfl possible (m.close_answer _) (of_close m _)
  | lost =>
      have proceeds : m.proceed = some (m.close (.answer (.failed l.slot.exitError))) := by
        simp only [proceed, stage, live, handshake]
      rw [proceeds, Option.getD_some] at possible
      exact later _ _ rfl possible (m.close_answer _) (of_close m _)
  | done =>
      have proceeds : m.proceed = some (m.greeted purpose) := by
        simp only [proceed, stage, live, handshake]
      rw [proceeds, Option.getD_some] at possible
      cases purpose with
      | start => exact now _ _ .done rfl possible rfl
      | execute code cellId => exact later _ _ rfl possible rfl (of_calling rfl live)

end Manager.Answerable

/-- No operation is stuck. -/
theorem Manager.Sound.answerable (sound : m.Sound) (busy : m.stage ≠ .idle) :
  m.Answerable
  := by
  have promises := sound.promises rfl
  cases stage : m.stage with
  | idle => exact absurd stage busy
  | closed next => exact .of_closed stage
  | asking l next => exact .of_asking stage
  | leaving l next => exact .of_leaving (.inl stage)
  | killed l next => exact .of_leaving (.inr stage)
  | preparing runtime purpose => exact .of_preparing stage
  | spawning runtime purpose => exact .of_spawning stage
  | greeting purpose =>
      rw [stage] at promises
      obtain ⟨l, holds, -⟩ := promises
      exact .of_greeting stage holds.live
  | calling code cellId =>
      rw [stage] at promises
      obtain ⟨l, holds, -⟩ := promises
      exact .of_calling stage holds.live
  | sending =>
      rw [stage] at promises
      obtain ⟨l, holds, -⟩ := promises
      exact .of_sending stage holds.live
  | awaiting =>
      rw [stage] at promises
      obtain ⟨l, holds, -⟩ := promises
      exact .of_awaiting stage holds.live

end Session

end NotebookEngine
