import NotebookEngine.Proofs.Session.Processes
import NotebookEngine.Proofs.Session.Ranks
import NotebookEngine.Proofs.Session.Steps
import NotebookEngine.Proofs.Session.Turns

/-!
# Runs on a machine

A run of a queue on a machine (`HostedRun`) lets callers come at any time, lets the queue go on, and
lets the processes of the machine do whatever they do and time pass.

In a run, what is to be done belongs to the stage (`Owes`), the process that was started last is the
one of the session and was not sent a kill before the time to leave was over (`Tracks`), and the
time allowed for a stage counts from some time on that is past (`HostedRun.sound`).
-/

namespace NotebookEngine

namespace Session

open Host (Octets Machine)

variable {c : KernelConfig} {kills : List Nat}

/-! ### Runs on a machine -/

namespace Hosted

/-- A queue on a machine before anybody has come. -/
structure Blank (c : KernelConfig) (x : Hosted) : Prop where
  queue : x.queue = { manager := { config := c } }
  started : x.started = none
  deadline : x.deadline = none
  pending : x.pending = []
  unwritten : x.unwritten = none

/-- The process that is sent a kill by what is done next. -/
def kill? (x : Hosted) : Option Nat :=
  match x.pending with
  | .act .kill :: _ => x.started.map Machine.Started.process
  | _ => none

/-- What may happen next to a queue on a machine, with the processes that are sent a kill. -/
inductive Step (x : Hosted) : List Nat → Hosted → Prop
  | come (ticket : Nat) (d : Demand) : Step x [] (x.submit ticket d)
  | next {y : Hosted} (next : x.next = some y) : Step x x.kill?.toList y
  | told {withExit : Bool} {n : Nat × Output × Machine}
      (noticed : x.noticed? withExit x.machine = some n) : Step x [] (x.tell n)
  /-- Processes do what they do, and time passes. -/
  | elapses {m : Machine} (goes : x.machine.GoesOn m) : Step x [] { x with machine := m }
  /-- The outcomes are looked up. -/
  | fetched {os : List (Nat × Outcome)} : Step x [] { x with outcomes := os }

end Hosted

/-- A run of a queue on a machine: the processes that were sent a kill, and what has become of
both. -/
inductive HostedRun (c : KernelConfig) : List Nat → Hosted → Prop
  | new {x : Hosted} (blank : x.Blank c) : HostedRun c [] x
  | step {kills more : List Nat} {x y : Hosted} :
    HostedRun c kills x → x.Step more y → HostedRun c (kills ++ more) y

/-- A step in which no process is sent a kill. -/
theorem HostedRun.quiet {x y : Hosted} (run : HostedRun c kills x) (step : x.Step [] y) :
  HostedRun c kills y
  := by
  have run := run.step step
  rwa [List.append_nil] at run

/-! ### What is to be done in a stage -/

/-- More is to be done for it than to tell a caller. -/
def Effect.isDeed : Effect → Bool
  | .act (.answer _) | .outcome _ _ => false
  | .act _ => true

/-- Nothing need be done in the stage. -/
def Stage.isBare : Stage → Bool
  | .closed _ | .leaving _ _ | .greeting _ | .calling _ _ | .awaiting => true
  | _ => false

/-- What may be to be done in a stage, and what may be left of a line that is being written. -/
inductive Owes (kills : List Nat) : Stage → List Effect → Option Octets → Prop
  | tell {effects : List Effect} (told : ∀ e ∈ effects, e.isDeed = false) :
    Owes kills .idle effects none
  | nothing {s : Stage} (bare : s.isBare = true) : Owes kills s [] none
  | prepare {runtime : Text} {purpose : Purpose} :
    Owes kills (.preparing runtime purpose) [.act .prepare] none
  | spawn {runtime path : Text} {purpose : Purpose} {arguments : List Text} :
    Owes kills (.spawning runtime purpose) [.act (.spawn path arguments)] none
  | write {s : Stage} {line : Text} (writes : s.writes = true) :
    Owes kills s [.act (.write line)] none
  | writing {s : Stage} {rest : Octets} (writes : s.writes = true) : Owes kills s [] (some rest)
  | closeInput {l : Live} {next : Sequel} : Owes kills (.leaving l next) [.act .closeInput] none
  | kill {l : Live} {next : Sequel} (stopped : l.reader.isReading = false) :
    Owes kills (.killed l next) [.act .kill] none
  /-- The kill was sent, or came too late. -/
  | killed {l : Live} {next : Sequel} (stopped : l.reader.isReading = false)
      (sent : l.process ∈ kills ∨ l.reader.hasReaped = true) : Owes kills (.killed l next) [] none

/-- A step leaves to be done what belongs to the stage to which it leads. -/
def Manager.Step.Owing (kills : List Nat) (s : Manager.Step) : Prop :=
  Owes kills s.1.stage (s.2.map .act) none

namespace Manager

variable {m m' : Manager} {mv : Move} {actions : List Action}

theorem finish_owing (m : Manager) (a : Answer) :
  Step.Owing kills (m.finish a)
  := by
  apply Owes.tell
  simp [finish, goDoing, Effect.isDeed]

theorem close_owing (m : Manager) (next : Sequel) :
  Step.Owing kills (m.close next)
  := by
  unfold close
  split
  · exact .nothing rfl
  · split
    · exact .closeInput
    · exact .write rfl

/-- What an operation does by itself leaves to be done what belongs to its stage. -/
theorem proceed_owing {s : Step} (proceeds : m.proceed = some s) :
  s.Owing kills
  := by
  obtain ⟨m', actions⟩ := s
  cases transition_of_proceed (.inl rfl) proceeds with
  | closing => apply close_owing
  | finished | ended => exact finish_owing m _
  | left | greeted => exact .nothing rfl
  | preparing => exact .prepare
  | spawning => exact .spawn
  | begun => exact .write rfl

/-- So does taking up an operation. -/
theorem take_owing (m : Manager) (op : Operation) :
  Step.Owing kills (m.take op)
  := by
  cases op with
  | start | shutdown => apply close_owing
  | execute code cellId runtime =>
      rw [take]
      split
      · exact .nothing rfl
      · apply close_owing
  | restart =>
      rw [take]
      split
      · apply finish_owing
      · apply close_owing

theorem prepared_owing {runtime : Text} {purpose : Purpose}
    (stage : m.stage = .preparing runtime purpose) (script : Except Host.Fault Text) :
  Step.Owing kills (m.receive (.prepared script))
  := by
  cases script <;> simp only [receive, stage]
  · apply finish_owing
  · exact .spawn

theorem spawned_owing {runtime : Text} {purpose : Purpose}
    (stage : m.stage = .spawning runtime purpose) (process : Except Host.Fault Nat) :
  Step.Owing kills (m.receive (.spawned process))
  := by
  cases process <;> simp only [receive, stage]
  · apply finish_owing
  · exact .nothing rfl

theorem written_owing (writes : m.stage.writes = true) (ok : Bool) :
  Step.Owing kills (m.receive (.written ok))
  := by
  cases stage : m.stage <;> simp only [stage, Stage.writes, Bool.false_eq_true] at writes
  case asking =>
    simp only [receive, stage]
    exact .closeInput
  case sending =>
    simp only [receive, stage]
    exact .nothing rfl

/-- When the time allowed for a stage is over, what is to be done belongs to the next one. -/
theorem Sound.expired_owing (sound : m.Sound) (waits : m.proceed = none)
    (allowed : (m.stage.allowance c).isSome = true) :
  Step.Owing kills (m.receive .expired)
  := by
  simp only [receive, waits, Option.getD_none]
  rcases Stage.of_allowance allowed with ⟨purpose, stage⟩ | stage | ⟨l, next, stage⟩
  · simp only [expire, stage]
    apply close_owing
  · obtain ⟨l, holds, -⟩ := sound.promises stage
    simp only [expire, stage, holds.live, endCall]
    apply finish_owing
  · simp only [expire, stage]
    split
    case isTrue reaped =>
      apply Owes.killed l.reader.stop_isReading
      right
      cases reader : l.reader <;> simp_all [Reader.stop, Reader.hasReaped]
    case isFalse => exact .kill l.reader.stop_isReading

end Manager

/-- The outcome of a ticket may be told after what a step leaves to be done. -/
theorem Owes.append_outcome {s : Stage} {actions : List Action} {a : Answer}
    (owes : Owes kills s (actions.map .act) none) (answer : answerAmong? actions = some a)
    (ticket : Nat) (o : Outcome) :
  Owes kills s (actions.map .act ++ [.outcome ticket o]) none
  := by
  generalize effects : actions.map Effect.act = es at owes ⊢
  cases owes with
  | tell told =>
      apply Owes.tell
      simpa [or_imp, forall_and, Effect.isDeed] using told
  | nothing | killed =>
      obtain rfl := List.map_eq_nil_iff.mp effects
      cases answer
  | prepare | spawn | write | closeInput | kill =>
      obtain ⟨_, rfl, act⟩ := List.map_eq_singleton_iff.mp effects
      cases act
      cases answer

/-- What is to be done after a step of the manager belongs to the stage to which it leads. -/
theorem Queue.after_owes {q : Queue} {step : Manager.Step} (owing : step.Owing kills) :
  Owes kills (q.after step).1.manager.stage (q.after step).2 none
  := by
  rcases q.after_cases step with ⟨ticket, a, -, answer, after⟩ | ⟨-, after⟩ <;> rw [after]
  · exact owing.append_outcome answer ticket (.answer a)
  · exact owing

/-- So does what is to be done when the queue goes on. -/
theorem Queue.Fits.proceed_owes {q : Queue} {calls : List (Nat × Demand)} {op : Option Operation}
    {s : Queue × List Effect} (fits : q.Fits calls op) (proceeds : q.proceed = some s) :
  Owes kills s.1.manager.stage s.2 none
  := by
  unfold Queue.proceed at proceeds
  split at proceeds
  case h_1 free =>
    have idle := fits.free_iff.mp free
    unfold Queue.serveNext at proceeds
    split at proceeds
    case h_1 =>
      obtain rfl := Option.some.inj proceeds
      rw [idle]
      apply Owes.tell
      simp [Effect.isDeed]
    case h_2 op _ _ _ =>
      obtain rfl := Option.some.inj proceeds
      apply Queue.after_owes
      simp only [Manager.receive, idle]
      exact q.manager.take_owing op
    case h_3 => cases proceeds
  case h_2 =>
    obtain ⟨step, goes, rfl⟩ := Option.map_eq_some_iff.mp proceeds
    exact Queue.after_owes (Manager.proceed_owing goes)

/-- While something is left of a line, nothing else is to be done. -/
theorem Owes.writes_of_rest {s : Stage} {pending : List Effect} {rest : Octets}
    (owes : Owes kills s pending (some rest)) :
  pending = [] ∧ s.writes = true
  := by
  cases owes with
  | writing writes => exact ⟨rfl, writes⟩

/-- A line is only left to be written in a stage for it. -/
theorem Owes.unwritten_of_not_writes {s : Stage} {unwritten : Option Octets}
    (owes : Owes kills s [] unwritten) (writes : s.writes = false) :
  unwritten = none
  := by
  cases owes with
  | writing writes' => cases writes'.symm.trans writes
  | _ => rfl

/-- While a line is being written, nothing goes on by itself. -/
theorem Queue.Fits.proceed_of_writes {q : Queue} {calls : List (Nat × Demand)}
    {op : Option Operation} (fits : q.Fits calls op) (writes : q.manager.stage.writes = true) :
  q.proceed = none
  := by
  have serving : q.serving ≠ none := by
    rw [Ne, fits.free_iff]
    intro idle
    rw [idle] at writes
    cases writes
  rw [q.proceed_of_busy serving, Option.map_eq_none_iff]
  cases stage : q.manager.stage <;> simp only [stage, Stage.writes, Bool.false_eq_true] at writes
  case asking | sending => simp only [Manager.proceed, stage]

/-! ### The process of the session -/

namespace Manager

variable {m m' : Manager} {mv : Move} {actions : List Action}

theorem close_config (m : Manager) (next : Sequel) :
  (m.close next).1.config = m.config
  := by
  unfold close
  split
  · rfl
  · split <;> rfl

theorem notice_config (m : Manager) (n : Nat) (o : Output) :
  (m.notice n o).config = m.config
  := by
  unfold notice
  split <;> rfl

end Manager

variable {m m' : Manager} {mv : Move} {actions : List Action}

/-- The settings stay what they are. -/
theorem Transition.config (step : Transition m mv m' actions) :
  m'.config = m.config
  := by
  cases step with
  | noticed => apply Manager.notice_config
  | closing => apply Manager.close_config
  | _ => rfl

/-- A session whose process is killed is closed next. -/
theorem Transition.of_killed {l : Live} {next : Sequel} (step : Transition m mv m' actions)
    (stage : m.stage = .killed l next) :
  (∃ l', m'.stage = .killed l' next) ∨ m'.stage = .closed next
  := by
  have other {s : Stage} (h : m.stage = s) : s = .killed l next := h.symm.trans stage
  cases step with
  | ignored => exact .inl ⟨l, stage⟩
  | noticed =>
      left
      simp only [Manager.notice, stage]
      exact ⟨_, rfl⟩
  | left _ before =>
      rcases before with before | before
      · cases other before
      · obtain ⟨-, rfl⟩ := Stage.killed.inj (other before)
        exact .inr rfl
  | closing why => cases why <;> cases other ‹_›
  | finished why => cases why <;> cases other ‹_›
  | kept | preparing | spawning | prepared | spawned | greeted | begun | sent | ended | asked
      | killed => cases other ‹_›

/-- The session that the manager listens to after a transition is the one it listened to before, or
its process has just been started. -/
theorem Transition.process (step : Transition m mv m' actions) (sound : m.Sound) {l' : Live}
    (session : m'.session? = some l') :
  mv = .hear (.spawned (.ok l'.process))
    ∨ ∃ l, m.session? = some l ∧ l.process = l'.process
  := by
  have steps := step.session sound
  rw [session] at steps
  generalize before : m.session? = l? at steps
  cases steps with
  | started started =>
      left
      unfold Entry.started? at started
      split at started
      case h_1 n runtime purpose move stage =>
        obtain rfl := Option.some.inj started
        exact move
      case h_2 => cases started
  | stays _ step => exact .inr ⟨_, rfl, step.process.symm⟩

/-- The process that was started last is the one of the session, if there is a session, and it was
not sent a kill before the time to leave was over. Processes have numbers that are not used
again. -/
structure Tracks (c : KernelConfig) (kills : List Nat) (q : Queue) (machine : Machine)
    (started : Option Machine.Started) : Prop where
  config : q.manager.config = c
  fits : ∃ calls op, q.Fits calls op
  held : ∀ l ∈ q.manager.session?, ∃ s ∈ started, s.process = l.process
  numbered : ∀ s ∈ started, s.process < machine.nextProcess
  known : ∀ n ∈ kills, n < machine.nextProcess
  spared : ∀ l ∈ q.manager.session?, l.process ∈ kills → ∃ next, q.manager.stage = .killed l next

namespace Tracks

variable {q q' : Queue} {machine machine' : Machine} {started : Option Machine.Started}

theorem sound (tracks : Tracks c kills q machine started) :
  q.manager.Sound
  := by
  obtain ⟨_, _, fits⟩ := tracks.fits
  exact fits.sound

theorem free_iff (tracks : Tracks c kills q machine started) :
  q.serving = none ↔ q.manager.stage = .idle
  := by
  obtain ⟨_, _, fits⟩ := tracks.fits
  exact fits.free_iff

/-- The machine may go on. -/
theorem later (tracks : Tracks c kills q machine started) (later : machine.Later machine') :
  Tracks c kills q machine' started
  := { tracks with
    numbered := fun s hs => Nat.lt_of_lt_of_le (tracks.numbered s hs) later.next
    known := fun n hn => Nat.lt_of_lt_of_le (tracks.known n hn) later.next }

/-- The queue may make a step; when it takes notice that a process was started, that is the process
which was started last, and it was not sent a kill. -/
theorem step {mv : QueueMove} {mv? : Option Move} {effects : List Effect}
    (tracks : Tracks c kills q machine started) (step : QueueStep q mv mv? q' effects)
    (spawned : ∀ n, mv? = some (.hear (.spawned (.ok n))) →
      n ∉ kills ∧ ∃ s ∈ started, s.process = n) :
  Tracks c kills q' machine started
  := by
  obtain ⟨calls, op, fits⟩ := tracks.fits
  have fits' := step.fits fits
  rcases step.manager with ⟨-, same⟩ | ⟨mv₀, moved, possible⟩
  · obtain ⟨config, -, held, numbered, known, spared⟩ := tracks
    rw [← same] at config held spared
    exact ⟨config, ⟨_, _, fits'⟩, held, numbered, known, spared⟩
  · have transition := transition_of_move? possible
    refine ⟨transition.config.trans tracks.config, ⟨_, _, fits'⟩, ?_, tracks.numbered,
      tracks.known, ?_⟩
    · intro l' session
      rcases transition.process fits.sound session with rfl | ⟨l, before, same⟩
      · exact (spawned _ moved).2
      · rw [← same]
        exact tracks.held l before
    · intro l' session sent
      rcases transition.process fits.sound session with rfl | ⟨l, before, same⟩
      · cases (spawned _ moved).1 sent
      · obtain ⟨next, stage⟩ := tracks.spared l before (same ▸ sent)
        rcases transition.of_killed stage with ⟨k, stage'⟩ | stage'
        · obtain rfl : k = l' := by
            simpa [Manager.session?, stage'] using session
          exact ⟨next, stage'⟩
        · have vacant := fits'.sound.promises stage'
          simp only [Manager.session?, stage', vacant.live] at session
          cases session

/-- The process of a session may be sent a kill when the time to leave is over. -/
theorem kill {l : Live} {next : Sequel} (tracks : Tracks c kills q machine started)
    (stage : q.manager.stage = .killed l next) :
  Tracks c (kills ++ [l.process]) q machine started
  := by
  have session : q.manager.session? = some l := by simp only [Manager.session?, stage]
  refine { tracks with known := ?_, spared := ?_ }
  · intro n hn
    rcases List.mem_append.mp hn with hn | hn
    · exact tracks.known n hn
    · obtain ⟨s, started, process⟩ := tracks.held l session
      rw [List.mem_singleton.mp hn, ← process]
      exact tracks.numbered s started
  · intro l' session' _
    obtain rfl := Option.some.inj (session.symm.trans session')
    exact ⟨next, stage⟩

end Tracks

/-! ### Sound hosts -/

namespace Hosted

variable {x y : Hosted} {more : List Nat}

/-- The process of the session is tracked, what is to be done belongs to the stage, and the time
allowed for the stage counts from some time on that is past. -/
structure Sound (c : KernelConfig) (kills : List Nat) (x : Hosted) : Prop where
  tracks : Tracks c kills x.queue x.machine x.started
  owes : Owes kills x.queue.manager.stage x.pending x.unwritten
  timed : ∃ t ≤ x.machine.now, x.deadline = (x.queue.manager.stage.allowance c).map (t + ·)

theorem Blank.sound (blank : x.Blank c) :
  x.Sound c []
  := by
  obtain ⟨queue, started, deadline, pending, unwritten⟩ := blank
  have fits : ({ manager := { config := c } } : Queue).Fits [] none :=
    ⟨.inl ⟨rfl, rfl⟩, rfl, .free, List.nil_subset _⟩
  refine ⟨⟨?_, ⟨[], none, queue ▸ fits⟩, ?_, ?_, List.forall_mem_nil _, ?_⟩, ?_, 0, Nat.zero_le _,
    ?_⟩
  · rw [queue]
  · simp [queue, Manager.session?]
  · simp [started]
  · simp [queue, Manager.session?]
  · rw [queue, pending, unwritten]
    exact .tell (List.forall_mem_nil _)
  · rw [queue, deadline]
    rfl

/-- A step begins a stage: from now on its time counts. -/
theorem sound_step {s : Queue × List Effect} {mv : QueueMove} {mv? : Option Move}
    (tracks : Tracks c kills x.queue x.machine x.started) (step : QueueStep x.queue mv mv? s.1 s.2)
    (spawned : ∀ n, mv? = some (.hear (.spawned (.ok n))) →
      n ∉ kills ∧ ∃ s ∈ x.started, s.process = n)
    (pending : x.pending = []) (unwritten : x.unwritten = none)
    (owes : Owes kills s.1.manager.stage s.2 none) :
  (x.step s).Sound c kills
  := by
  have tracks' := tracks.step step spawned
  refine ⟨tracks', ?_, ⟨x.machine.now, Nat.le_refl _, ?_⟩⟩
  · simp only [Hosted.step, pending, unwritten, List.nil_append]
    exact owes
  · rw [← tracks'.config]
    rfl

/-- An event that belongs to the stage begins another one. -/
theorem sound_hear {e : Event} (tracks : Tracks c kills x.queue x.machine x.started)
    (call : e.isCall = false)
    (spawned : ∀ n, e = .spawned (.ok n) → n ∉ kills ∧ ∃ s ∈ x.started, s.process = n)
    (pending : x.pending = []) (unwritten : x.unwritten = none)
    (owing : Manager.Step.Owing kills (x.queue.manager.receive e)) :
  (x.hear e).Sound c kills
  := by
  apply sound_step tracks (.moved (.heard call) rfl) _ pending unwritten (Queue.after_owes owing)
  intro n moved
  exact spawned n (Move.hear.inj (Option.some.inj moved))

theorem nextOutput_later {withExit : Bool} {l : Live} {s : Machine.Started} {m m' : Machine}
    {o : Output} (noticed : nextOutput withExit l s m = some (o, m')) :
  m.Later m'
  := by
  unfold nextOutput at noticed
  split at noticed
  · cases noticed
  · split at noticed
    · cases noticed
    · cases noticed
      rfl
    · split at noticed
      · split at noticed <;> cases noticed
        exact ((Machine.forget_later _).trans (Machine.release_later _)).trans
          (Machine.release_later _)
      · cases noticed
    · dsimp only at noticed
      split at noticed
      · cases noticed
        apply Machine.setPipe_later
      · split at noticed
        · cases noticed
        · split at noticed <;> cases noticed
          · rfl
          · apply Machine.setPipe_later

theorem noticed?_later {withExit : Bool} {n : Nat} {o : Output} {m m' : Machine}
    (noticed : x.noticed? withExit m = some (n, o, m')) :
  m.Later m'
  := by
  unfold noticed? at noticed
  split at noticed
  · obtain ⟨⟨o', m''⟩, next, same⟩ := Option.map_eq_some_iff.mp noticed
    cases same
    exact nextOutput_later next
  · cases noticed

end Hosted

/-! ### Sessions that hear of their process -/

/-- A process that is reaped stays so. -/
theorem Live.hear_hasReaped {l : Live} (reaped : l.reader.hasReaped = true) (n : Nat) (o : Output) :
  (l.hear n o).reader.hasReaped = true
  := by
  obtain ⟨runtime, process, reader, slot⟩ := l
  cases reader with
  | reading | reaping => cases reaped
  | recording code left =>
      unfold hear
      split
      · cases o with
        | recorded => cases left <;> rfl
        | _ => rfl
      · rfl

/-- What a process does leaves what is to be done. -/
theorem Owes.hear {s : Stage} {pending : List Effect} {unwritten : Option Octets}
    (owes : Owes kills s pending unwritten) (n : Nat) (o : Output) :
  Owes kills (s.hear n o) pending unwritten
  := by
  cases owes with
  | tell told => exact .tell told
  | nothing bare => exact .nothing (by cases s <;> first | rfl | cases bare)
  | prepare => exact .prepare
  | spawn => exact .spawn
  | write writes => exact .write (by cases s <;> first | rfl | cases writes)
  | writing writes => exact .writing (by cases s <;> first | rfl | cases writes)
  | closeInput => exact .closeInput
  | kill stopped => exact .kill (Live.hear_stopped stopped n o)
  | killed stopped sent =>
      apply Owes.killed (Live.hear_stopped stopped n o)
      rw [Live.hear_process]
      exact sent.imp_right fun reaped => Live.hear_hasReaped reaped n o

/-! ### Going on soundly -/

namespace Hosted

variable {x y : Hosted} {more : List Nat}

/-- To be told of what a process has done leaves the stage and its deadline. -/
theorem tell_eq (x : Hosted) (n : Nat) (o : Output) (m : Machine) :
  (x.tell (n, o, m)).deadline = x.deadline
    ∧ (x.tell (n, o, m)).queue.manager = x.queue.manager.notice n o
    ∧ (x.tell (n, o, m)).pending = x.pending
  := by
  have silent : (x.queue.hear (.output n o)).2 = [] := by
    rcases x.queue.after_cases (x.queue.manager.receive (.output n o)) with
      ⟨_, a, -, answer, -⟩ | ⟨-, after⟩
    · cases answer
    · exact congrArg Prod.snd after
  refine ⟨rfl, x.queue.after_manager (x.queue.manager.receive (.output n o)), ?_⟩
  simp only [tell, silent, List.append_nil]

namespace Sound

/-- No process is sent a kill. -/
theorem quiet (sound : x.Sound c kills) :
  x.Sound c (kills ++ [])
  := by
  rw [List.append_nil]
  exact sound

theorem later {m : Machine} (sound : x.Sound c kills) (later : x.machine.Later m) :
  Sound c kills { x with machine := m }
  := by
  obtain ⟨tracks, owes, t, past, timed⟩ := sound
  exact ⟨tracks.later later, owes, t, Nat.le_trans past later.now, timed⟩

theorem told {withExit : Bool} {n : Nat × Output × Machine} (sound : x.Sound c kills)
    (noticed : x.noticed? withExit x.machine = some n) :
  (x.tell n).Sound c kills
  := by
  obtain ⟨n, o, m⟩ := n
  obtain ⟨tracks, owes, t, past, timed⟩ := sound.later (noticed?_later noticed)
  obtain ⟨deadline, manager, pending⟩ := x.tell_eq n o m
  have stage : (x.tell (n, o, m)).queue.manager.stage = x.queue.manager.stage.hear n o := by
    rw [manager, Manager.notice_stage]
  refine ⟨?_, ?_, t, past, ?_⟩
  · have step : QueueStep x.queue (.hear (.output n o)) (some (.hear (.output n o)))
        (x.queue.hear (.output n o)).1 (x.queue.hear (.output n o)).2 := .moved (.heard rfl) rfl
    exact tracks.step step nofun
  · rw [stage, pending]
    exact owes.hear n o
  · rw [stage, Stage.hear_allowance, deadline]
    exact timed

/-- The script is put in place, or cannot be. -/
theorem prepare {runtime : Text} {purpose : Purpose}
    (tracks : Tracks c kills x.queue x.machine x.started)
    (stage : x.queue.manager.stage = .preparing runtime purpose) (pending : x.pending = [])
    (unwritten : x.unwritten = none) :
  x.prepare.Sound c kills
  := by
  unfold Hosted.prepare
  dsimp only
  split
  · exact sound_hear tracks rfl nofun pending unwritten (Manager.prepared_owing stage _)
  · rename_i files _
    have later : x.machine.Later { x.machine with files } := ⟨Nat.le_refl _, Nat.le_refl _⟩
    exact sound_hear (x := { x with machine := { x.machine with files } }) (tracks.later later) rfl
      nofun pending unwritten (Manager.prepared_owing stage _)

/-- A process is started, which has a number of its own, or cannot be. -/
theorem spawn {runtime path : Text} {purpose : Purpose} {arguments : List Text}
    (tracks : Tracks c kills x.queue x.machine x.started)
    (stage : x.queue.manager.stage = .spawning runtime purpose) (pending : x.pending = [])
    (unwritten : x.unwritten = none) :
  (x.spawn path arguments).Sound c kills
  := by
  unfold Hosted.spawn
  split
  · exact sound_hear tracks rfl nofun pending unwritten (Manager.spawned_owing stage _)
  · rename_i m s starts
    obtain ⟨number, now, next⟩ := Machine.start_later starts
    have later : x.machine.Later m := ⟨now, next ▸ Nat.le_succ _⟩
    have unheld : x.queue.manager.session? = none := by
      have vacant := tracks.sound.promises stage
      simp only [Manager.session?, stage, vacant.live]
    have tracks' : Tracks c kills x.queue m (some s) := by
      refine { tracks.later later with held := ?_, numbered := ?_ }
      · simp [unheld]
      · intro s' same
        obtain rfl := Option.some.inj same
        omega
    refine sound_hear (x := { x with machine := m, started := some s }) tracks' rfl ?_ pending
      unwritten (Manager.spawned_owing stage _)
    rintro n ⟨⟩
    refine ⟨?_, s, rfl, rfl⟩
    intro sent
    have := tracks.known _ sent
    omega

/-- What is first to be done is done. -/
theorem perform {e : Effect} {es : List Effect} (sound : x.Sound c kills)
    (pending : x.pending = e :: es) :
  ({ x with pending := es }.perform e).Sound c (kills ++ x.kill?.toList)
  := by
  obtain ⟨tracks, owes, timed⟩ := sound
  obtain ⟨queue, machine, site, directory, id, started, deadline, todo, unwritten, outcomes⟩ := x
  dsimp only at tracks owes timed pending ⊢
  subst pending
  generalize stage : queue.manager.stage = s at owes
  cases owes with
  | tell told =>
      have owes : Owes kills queue.manager.stage es none := by
        rw [stage]
        exact .tell fun e he => told e (List.mem_cons_of_mem _ he)
      have still := told e List.mem_cons_self
      cases e with
      | outcome => exact quiet ⟨tracks, owes, timed⟩
      | act a =>
          cases a with
          | answer => exact quiet ⟨tracks, owes, timed⟩
          | _ => cases still
  | prepare => exact (prepare tracks stage rfl rfl).quiet
  | spawn => exact (spawn tracks stage rfl rfl).quiet
  | write writes => exact quiet ⟨tracks, .writing (stage ▸ writes), timed⟩
  | @closeInput l next =>
      apply quiet
      have sound : Sound c kills ⟨queue, machine, site, directory, id, started, deadline, [], none,
          outcomes⟩ :=
        ⟨tracks, .nothing (by rw [stage]; rfl), timed⟩
      unfold Hosted.perform
      dsimp only
      split
      · exact sound.later (Machine.release_later _)
      · exact sound
  | @kill l next stopped =>
      have session : queue.manager.session? = some l := by simp only [Manager.session?, stage]
      obtain ⟨s, rfl, process⟩ := tracks.held l session
      change Sound c (kills ++ [s.process]) _
      have owes : Owes (kills ++ [s.process]) queue.manager.stage [] none := by
        rw [stage, process]
        exact .killed stopped (.inl (by simp))
      have tracks' := tracks.kill stage
      rw [← process] at tracks'
      have sound : Sound c (kills ++ [s.process]) ⟨queue, machine, site, directory, id, some s,
          deadline, [], none, outcomes⟩ :=
        ⟨tracks', owes, timed⟩
      exact sound.later (Machine.kill_later _)

/-- The writing of a line goes on, or is over. -/
theorem pour (sound : x.Sound c kills) (pours : x.pour? = some y) :
  y.Sound c kills
  := by
  obtain ⟨tracks, owes, t, past, timed⟩ := sound
  obtain ⟨⟨rest, unwritten⟩, pours⟩ := pours_of_pour? pours
  rw [unwritten] at owes
  obtain ⟨pending, writes⟩ := owes.writes_of_rest
  cases pours with
  | ended later =>
      exact sound_hear (x := { x with unwritten := none, machine := _ }) (tracks.later later) rfl
        nofun pending rfl (Manager.written_owing writes _)
  | full later =>
      refine ⟨tracks.later later, ?_, t, Nat.le_trans past later.now, timed⟩
      rw [pending]
      exact .writing writes

/-- Time was allowed for a stage if it is over. -/
theorem allowed_of_late (sound : x.Sound c kills) (late : x.isLate = true) :
  (x.queue.manager.stage.allowance c).isSome = true
  := by
  obtain ⟨t, -, timed⟩ := sound.timed
  cases allowance : x.queue.manager.stage.allowance c with
  | none => simp [isLate, timed, allowance] at late
  | some => rfl

/-- When the time allowed is over, the next stage begins. -/
theorem expire (sound : x.Sound c kills) (pending : x.pending = [])
    (serving : x.queue.serving ≠ none) (waits : x.queue.proceed = none) (late : x.isLate = true) :
  (x.hear .expired).Sound c kills
  := by
  have allowed := sound.allowed_of_late late
  obtain ⟨tracks, owes, -⟩ := sound
  have unwritten : x.unwritten = none := by
    rw [pending] at owes
    apply owes.unwritten_of_not_writes
    rcases Stage.of_allowance allowed with ⟨purpose, stage⟩ | stage | ⟨l, next, stage⟩ <;>
      rw [stage] <;> rfl
  rw [x.queue.proceed_of_busy serving, Option.map_eq_none_iff] at waits
  exact sound_hear tracks rfl nofun pending unwritten (tracks.sound.expired_owing waits allowed)

/-- So does a stage that ends by itself. -/
theorem proceed {s : Queue × List Effect} (sound : x.Sound c kills) (pending : x.pending = [])
    (proceeds : x.queue.proceed = some s) :
  (x.step s).Sound c kills
  := by
  obtain ⟨tracks, owes, -⟩ := sound
  obtain ⟨_, _, fits⟩ := tracks.fits
  have possible : x.queue.move? .proceed = some s := proceeds
  have unwritten : x.unwritten = none := by
    rw [pending] at owes
    apply owes.unwritten_of_not_writes
    cases writes : x.queue.manager.stage.writes with
    | false => rfl
    | true => cases (fits.proceed_of_writes writes).symm.trans proceeds
  refine sound_step tracks (queueStep_of_move? possible) ?_ pending unwritten
    (fits.proceed_owes proceeds)
  intro n moved
  unfold Queue.managed? at moved
  split at moved <;> cases moved
  simp_all

/-- The queue and its machine go on soundly. -/
theorem next (sound : x.Sound c kills) (next : x.next = some y) :
  y.Sound c (kills ++ x.kill?.toList)
  := by
  have unsent (pending : x.pending = []) : x.kill?.toList = [] := by
    rw [kill?, pending]
    rfl
  cases goes_of_next next with
  | performed pending => exact sound.perform pending
  | proceeded pending proceeds =>
      rw [unsent pending]
      exact (sound.proceed pending proceeds).quiet
  | poured pending pours =>
      rw [unsent pending]
      exact (sound.pour pours).quiet
  | told pending _ _ _ noticed =>
      rw [unsent pending]
      exact (sound.told noticed).quiet
  | expired pending serving waits late =>
      rw [unsent pending]
      exact (sound.expire pending serving waits late).quiet
  | passed pending =>
      rw [unsent pending]
      exact (sound.later x.pass_goesOn.later).quiet

end Sound

/-- Whatever happens next, the host stays sound. -/
theorem Sound.step (sound : x.Sound c kills) (step : x.Step more y) :
  y.Sound c (kills ++ more)
  := by
  cases step with
  | next next => exact sound.next next
  | come => exact Sound.quiet ⟨sound.tracks.step .came nofun, sound.owes, sound.timed⟩
  | told noticed => exact (sound.told noticed).quiet
  | elapses goes => exact (sound.later goes.later).quiet
  | fetched => exact Sound.quiet ⟨sound.tracks, sound.owes, sound.timed⟩

end Hosted

theorem HostedRun.sound {x : Hosted} (run : HostedRun c kills x) :
  x.Sound c kills
  := by
  induction run with
  | new blank => exact blank.sound
  | step _ step ih => exact ih.step step

/-! ### What is done for a caller is a run -/

namespace HostedRun

variable {x y : Hosted}

/-- To take steps goes on with a run. -/
theorem steps (run : HostedRun c kills x) (n : Nat) :
  ∃ more, HostedRun c (kills ++ more) (x.steps n)
  := by
  refine Hosted.steps_keeps (P := fun x => ∃ more, HostedRun c (kills ++ more) x) ?_ n
    ⟨[], by rwa [List.append_nil]⟩
  rintro x y ⟨more, run⟩ next
  exact ⟨_, by simpa only [List.append_assoc] using run.step (.next next)⟩

/-- So does listening. -/
theorem listen (run : HostedRun c kills x) (withExit : Bool) :
  HostedRun c kills (x.listen withExit)
  := Hosted.listen_keeps (fun _ _ run noticed => run.quiet (.told noticed)) run

/-- So does serving those who have come. -/
theorem complete (run : HostedRun c kills x) (completes : x.complete = some y) :
  ∃ more, HostedRun c (kills ++ more) y
  := by
  obtain ⟨z, goes, rfl⟩ := Option.map_eq_some_iff.mp completes
  obtain ⟨n, rfl, -⟩ := Hosted.goOn_eq_some_iff.mp goes
  obtain ⟨more, run⟩ := run.steps n
  exact ⟨more, run.listen false⟩

/-- So does serving one who comes. -/
theorem call {d : Demand} {o : Outcome} (run : HostedRun c kills x)
    (called : x.call d = some (o, y)) :
  ∃ more, HostedRun c (kills ++ more) y
  := by
  have run := (run.quiet (y := { x with outcomes := [] }) .fetched).quiet (.come 0 d)
  exact run.complete (Hosted.call_eq_some_iff.mp called).1

/-- So does waiting for the process to leave. -/
theorem awaitExit (run : HostedRun c kills x) (limit : Nat) :
  HostedRun c kills (x.awaitExit limit)
  := by
  unfold Hosted.awaitExit
  split
  · split
    · exact run
    · exact (run.quiet (.elapses (Machine.waitUntil_goesOn _ _))).listen true
  · exact run

end HostedRun

end Session

end NotebookEngine
