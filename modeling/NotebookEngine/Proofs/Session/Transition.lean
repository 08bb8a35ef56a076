import NotebookEngine.Proofs.Session.History

/-!
# What one move does

`Transition m mv m' as` lists what the move `mv` can do to the manager `m`: which manager it
becomes and which actions are taken, with the stage the manager has to be in and what it has to
find there. `transition_of_move?` says that nothing else happens. Invariants are proved by cases on
transitions, without looking at the functions that make up a step.
-/

namespace NotebookEngine

namespace Session

variable {m m' : Manager} {mv : Move} {actions : List Action}

/-- Why the session is closed, and what follows. -/
inductive Closes (m : Manager) : Move → Sequel → Prop
  | start {runtime : Text} (idle : m.stage = .idle) :
    Closes m (.hear (.call (.start runtime))) (.start runtime .start)
  /-- The session held is not alive, or has another runtime. -/
  | execute {code cellId runtime : Text} (idle : m.stage = .idle)
      (unfit : m.isAlive = true → ∀ known ∈ m.runtime, ¬Text.SamePath known runtime) :
    Closes m (.hear (.call (.execute code cellId runtime))) (.start runtime (.execute code cellId))
  | restart {runtime : Text} (idle : m.stage = .idle) (known : m.runtime = some runtime) :
    Closes m (.hear (.call .restart)) (.start runtime .start)
  | shutdown (idle : m.stage = .idle) : Closes m (.hear (.call .shutdown)) (.answer .done)
  /-- The process left before the session announced itself. -/
  | lost {mv : Move} {purpose : Purpose} {l : Live} (own : mv.IsOwn)
      (stage : m.stage = .greeting purpose) (live : m.live = some l)
      (handshake : l.slot.handshake = .lost) :
    Closes m mv (.answer (.failed l.slot.exitError))
  /-- The session did not announce itself in time. -/
  | silent {purpose : Purpose} (stage : m.stage = .greeting purpose)
      (handshake : ∀ l, m.live = some l → l.slot.handshake = .waiting) :
    Closes m (.hear .expired) (.answer (.failed (.kernelStartup (.silent m.config.startupTimeout))))

/-- Why an operation is over that has no call to end. -/
inductive Finishes (m : Manager) : Move → Answer → Prop
  | closed {mv : Move} {a : Answer} (own : mv.IsOwn) (stage : m.stage = .closed (.answer a)) :
    Finishes m mv a
  | unknown (idle : m.stage = .idle) (runtime : m.runtime = none) :
    Finishes m (.hear (.call .restart)) (.failed .noKnownRuntime)
  | unprepared {runtime : Text} {purpose : Purpose} {f : Host.Fault}
      (stage : m.stage = .preparing runtime purpose) :
    Finishes m (.hear (.prepared (.error f))) (.failed (.io f))
  | unspawned {runtime : Text} {purpose : Purpose} {f : Host.Fault}
      (stage : m.stage = .spawning runtime purpose) :
    Finishes m (.hear (.spawned (.error f))) (.failed (.kernelStartup (.spawn runtime f)))
  | greeted {mv : Move} {l : Live} (own : mv.IsOwn) (stage : m.stage = .greeting .start)
      (live : m.live = some l) (handshake : l.slot.handshake = .done) : Finishes m mv .done
  | absent {mv : Move} {code cellId : Text} (own : mv.IsOwn)
      (stage : m.stage = .calling code cellId) (live : m.live = none) :
    Finishes m mv (.failed .kernelNotRunning)
  /-- The exit of the process was stored before the call began. -/
  | refused {mv : Move} {code cellId : Text} {l : Live} {k : Option Int} (own : mv.IsOwn)
      (stage : m.stage = .calling code cellId) (live : m.live = some l)
      (exited : l.slot.exited = some k) : Finishes m mv (.failed (.kernelProcessExited k))

/-- Why a call is over. -/
inductive Ends (m : Manager) (l : Live) : Move → Answer → Prop
  | replied {mv : Move} {reply : Reply} (own : mv.IsOwn) (call : l.slot.call = .answered reply) :
    Ends m l mv (Manager.answerOf reply)
  | dropped {mv : Move} (own : mv.IsOwn) (call : l.slot.call = .none) :
    Ends m l mv (.failed l.slot.exitError)
  | expired (call : l.slot.call = .taken ∨ ∃ cellId, l.slot.call = .pending cellId) :
    Ends m l (.hear .expired) (.failed (.executionTimeout m.config.requestTimeout))

/-- What a move does to a manager. -/
inductive Transition (m : Manager) : Move → Manager → List Action → Prop
  /-- What does not belong to the stage changes nothing. -/
  | ignored {e : Event} (call : ∀ op, e = .call op → m.stage ≠ .idle)
      (spawned : ∀ p runtime purpose, e = .spawned p → m.stage ≠ .spawning runtime purpose)
      (output : ∀ n o, e ≠ .output n o) : Transition m (.hear e) m []
  | noticed {n : Nat} {o : Output} : Transition m (.hear (.output n o)) (m.notice n o) []
  | closing {mv : Move} {next : Sequel} (why : Closes m mv next) :
    Transition m mv (m.close next).1 (m.close next).2
  /-- The session is alive and fits the call. -/
  | kept {code cellId path runtime : Text} (idle : m.stage = .idle) (alive : m.isAlive = true)
      (known : m.runtime = some path) (fits : Text.SamePath path runtime) :
    Transition m (.hear (.call (.execute code cellId runtime)))
      { m with stage := .calling code cellId } []
  | finished {mv : Move} {a : Answer} (why : Finishes m mv a) :
    Transition m mv { m with stage := .idle } [.answer a]
  | left {mv : Move} {l : Live} {next : Sequel} (own : mv.IsOwn)
      (stage : m.stage = .leaving l next ∨ m.stage = .killed l next)
      (reader : l.reader.isDone = true) : Transition m mv { m with stage := .closed next } []
  | preparing {mv : Move} {runtime : Text} {purpose : Purpose} (own : mv.IsOwn)
      (stage : m.stage = .closed (.start runtime purpose)) :
    Transition m mv { m with stage := .preparing runtime purpose } [.prepare]
  | spawning {mv : Move} {runtime script : Text} {purpose : Purpose} (own : mv.IsOwn)
      (stage : m.stage = .closed (.start runtime purpose)) :
    Transition m mv { m with stage := .spawning runtime purpose }
      [.spawn runtime (m.config.interpreterArguments ++ [script])]
  | prepared {runtime script : Text} {purpose : Purpose}
      (stage : m.stage = .preparing runtime purpose) :
    Transition m (.hear (.prepared (.ok script)))
      { m with bundledScript := some script, stage := .spawning runtime purpose }
      [.spawn runtime (m.config.interpreterArguments ++ [script])]
  | spawned {runtime : Text} {purpose : Purpose} {n : Nat}
      (stage : m.stage = .spawning runtime purpose) :
    Transition m (.hear (.spawned (.ok n)))
      { m with live := some { runtime, process := n }, runtime := some runtime,
               stage := .greeting purpose } []
  | greeted {mv : Move} {code cellId : Text} {l : Live} (own : mv.IsOwn)
      (stage : m.stage = .greeting (.execute code cellId)) (live : m.live = some l)
      (handshake : l.slot.handshake = .done) :
    Transition m mv { m with stage := .calling code cellId } []
  | begun {mv : Move} {code cellId : Text} {l : Live} (own : mv.IsOwn)
      (stage : m.stage = .calling code cellId) (live : m.live = some l)
      (exited : l.slot.exited = none) :
    Transition m mv
      { m with live := some { l with slot := { l.slot with call := .pending cellId } },
               stage := .sending } [.write (Request.execute code cellId).line]
  | sent {ok : Bool} (stage : m.stage = .sending) :
    Transition m (.hear (.written ok)) { m with stage := .awaiting } []
  | ended {mv : Move} {l : Live} {a : Answer} (stage : m.stage = .awaiting) (live : m.live = some l)
      (why : Ends m l mv a) :
    Transition m mv { m with live := some { l with slot := l.slot.abandon }, stage := .idle }
      [.answer a]
  | asked {ok : Bool} {l : Live} {next : Sequel} (stage : m.stage = .asking l next) :
    Transition m (.hear (.written ok)) { m with stage := .leaving l next } [.closeInput]
  | killed {l : Live} {next : Sequel} (stage : m.stage = .leaving l next) :
    Transition m (.hear .expired)
      { m with stage := .killed { l with reader := l.reader.stop } next }
      (if l.reader.hasReaped then [] else [.kill])

/-- A closed session is followed by what was meant to follow. -/
theorem transition_of_follow {next : Sequel} (own : mv.IsOwn) (stage : m.stage = .closed next) :
  Transition m mv (m.follow next).1 (m.follow next).2
  := by
  cases next with
  | answer a => apply Transition.finished (.closed own stage)
  | start runtime purpose =>
      rw [Manager.follow, Manager.prepare]
      split
      · apply Transition.spawning own stage
      · apply Transition.spawning own stage
      · apply Transition.preparing own stage

/-- A call begins or is refused. -/
theorem transition_of_beginCall {code cellId : Text} (own : mv.IsOwn)
    (stage : m.stage = .calling code cellId) :
  Transition m mv (m.beginCall code cellId).1 (m.beginCall code cellId).2
  := by
  cases hl : m.live with
  | none =>
      rw [Manager.beginCall, hl]
      apply Transition.finished (.absent own stage hl)
  | some l =>
      cases hx : l.slot.exited with
      | none =>
          have hbegin : l.slot.begin? cellId = .ok { l.slot with call := .pending cellId } := by
            simp [Slot.begin?, Slot.hasExited, hx]
          simp only [Manager.beginCall, hl, hbegin]
          apply Transition.begun own stage hl hx
      | some k =>
          have hbegin : l.slot.begin? cellId = .error (.kernelProcessExited k) := by
            simp [Slot.begin?, Slot.hasExited, Slot.exitError, Slot.exitCode, hx]
          simp only [Manager.beginCall, hl, hbegin]
          apply Transition.finished (.refused own stage hl hx)

/-- Going on by itself is one of the transitions of an own move. -/
theorem transition_of_proceed (own : mv.IsOwn) (step : m.proceed = some (m', actions)) :
  Transition m mv m' actions
  := by
  unfold Manager.proceed at step
  split at step
  case h_1 next stage =>
    obtain ⟨rfl, rfl⟩ := Prod.mk.inj (Option.some.inj step.symm)
    apply transition_of_follow own stage
  case h_2 l next stage =>
    split at step
    · obtain ⟨rfl, rfl⟩ := Prod.mk.inj (Option.some.inj step.symm)
      apply Transition.left own (.inl stage) ‹_›
    · cases step
  case h_3 l next stage =>
    split at step
    · obtain ⟨rfl, rfl⟩ := Prod.mk.inj (Option.some.inj step.symm)
      apply Transition.left own (.inr stage) ‹_›
    · cases step
  case h_4 code cellId stage =>
    obtain ⟨rfl, rfl⟩ := Prod.mk.inj (Option.some.inj step.symm)
    apply transition_of_beginCall own stage
  case h_5 purpose l stage live =>
    split at step
    case h_1 => cases step
    case h_2 handshake =>
      obtain ⟨rfl, rfl⟩ := Prod.mk.inj (Option.some.inj step.symm)
      cases purpose with
      | start => apply Transition.finished (.greeted own stage live handshake)
      | execute code cellId => apply Transition.greeted own stage live handshake
    case h_3 handshake =>
      obtain ⟨rfl, rfl⟩ := Prod.mk.inj (Option.some.inj step.symm)
      apply Transition.closing (.lost own stage live handshake)
  case h_6 l stage live =>
    split at step
    case h_1 => cases step
    case h_2 => cases step
    case h_3 reply call =>
      obtain ⟨rfl, rfl⟩ := Prod.mk.inj (Option.some.inj step.symm)
      apply Transition.ended stage live (.replied own call)
    case h_4 call =>
      obtain ⟨rfl, rfl⟩ := Prod.mk.inj (Option.some.inj step.symm)
      apply Transition.ended stage live (.dropped own call)
  case h_7 => cases step

/-- When the time allowed is over and nothing has come, the wait is given up. -/
theorem transition_of_expire (waits : m.proceed = none) :
  Transition m (.hear .expired) m.expire.1 m.expire.2
  := by
  unfold Manager.expire
  split
  case h_1 purpose stage =>
    apply Transition.closing
    apply Closes.silent stage
    intro l live
    simp only [Manager.proceed, stage, live] at waits
    cases handshake : l.slot.handshake with
    | waiting => rfl
    | done => simp [handshake] at waits
    | lost => simp [handshake] at waits
  case h_2 l stage live =>
    apply Transition.ended stage live
    apply Ends.expired
    simp only [Manager.proceed, stage, live] at waits
    cases call : l.slot.call with
    | none => simp [call] at waits
    | pending cellId => exact .inr ⟨cellId, rfl⟩
    | taken => exact .inl rfl
    | answered reply => simp [call] at waits
  case h_3 l next stage => apply Transition.killed stage
  case h_4 =>
    apply Transition.ignored <;> nofun

/-- The runtime wanted is known if it is the same path as the one that is. -/
theorem Manager.knows_iff {runtime : Text} :
  m.knows runtime = true ↔ ∃ path ∈ m.runtime, Text.SamePath path runtime
  := by
  rw [knows, Option.any_eq_true]
  simp only [decide_eq_true_eq, Option.mem_def]

/-- An operation that is called for is taken up by an idle manager. -/
theorem transition_of_take {op : Operation} (idle : m.stage = .idle) :
  Transition m (.hear (.call op)) (m.take op).1 (m.take op).2
  := by
  cases op with
  | start runtime => apply Transition.closing (.start idle)
  | execute code cellId runtime =>
      rw [Manager.take]
      split
      case isTrue h =>
        obtain ⟨alive, knows⟩ := Bool.and_eq_true_iff.mp h
        obtain ⟨path, known, fits⟩ := Manager.knows_iff.mp knows
        apply Transition.kept idle alive known fits
      case isFalse h =>
        apply Transition.closing (.execute idle _)
        intro alive path known fits
        apply h
        rw [alive, Manager.knows_iff.mpr ⟨path, known, fits⟩, Bool.and_self]
  | restart =>
      cases runtime : m.runtime with
      | none =>
          rw [Manager.take, runtime]
          apply Transition.finished (.unknown idle runtime)
      | some path =>
          rw [Manager.take, runtime]
          apply Transition.closing (.restart idle runtime)
  | shutdown => apply Transition.closing (.shutdown idle)

/-- An event does what the stage it belongs to says, and otherwise nothing. -/
theorem transition_of_receive (e : Event) :
  Transition m (.hear e) (m.receive e).1 (m.receive e).2
  := by
  cases e with
  | call op =>
      simp only [Manager.receive]
      split
      case h_1 idle => apply transition_of_take idle
      case h_2 busy =>
        apply Transition.ignored
        · intro _ _
          apply busy
        · nofun
        · nofun
  | prepared script =>
      simp only [Manager.receive]
      split
      case h_1 runtime purpose path stage => apply Transition.prepared stage
      case h_2 runtime purpose f stage => apply Transition.finished (.unprepared stage)
      case h_3 => apply Transition.ignored <;> nofun
  | spawned process =>
      simp only [Manager.receive]
      split
      case h_1 runtime purpose n stage => apply Transition.spawned stage
      case h_2 runtime purpose f stage => apply Transition.finished (.unspawned stage)
      case h_3 hok herror =>
        apply Transition.ignored
        · nofun
        · intro p runtime purpose same stage
          cases p with
          | ok n => apply hok runtime purpose n stage (Event.spawned.inj same)
          | error f => apply herror runtime purpose f stage (Event.spawned.inj same)
        · nofun
  | written ok =>
      simp only [Manager.receive]
      split
      case h_1 l next stage => apply Transition.asked stage
      case h_2 stage => apply Transition.sent stage
      case h_3 => apply Transition.ignored <;> nofun
  | expired =>
      simp only [Manager.receive]
      cases step : m.proceed with
      | none => apply transition_of_expire step
      | some s => apply transition_of_proceed (.inr rfl) step
  | output n o => apply Transition.noticed

/-- A move that can be made does what the transitions list, and nothing else. -/
theorem transition_of_move? (step : m.move? mv = some (m', actions)) :
  Transition m mv m' actions
  := by
  cases mv with
  | hear e =>
      obtain ⟨rfl, rfl⟩ := Prod.mk.inj (Option.some.inj step.symm)
      apply transition_of_receive
  | proceed => apply transition_of_proceed (.inl rfl) step

/-- An entry that follows a history is a transition. -/
theorem Entry.Follows.transition {e : Entry} {h : History} (follows : e.Follows h) :
  Transition e.before e.move e.after e.actions
  := transition_of_move? follows.possible

end Session

end NotebookEngine
