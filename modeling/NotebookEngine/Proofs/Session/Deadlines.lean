import NotebookEngine.Proofs.Json.Strings
import NotebookEngine.Proofs.Session.Hosting

/-!
# What ends a wait

`HostedRun.guarded` says what ends the wait of an operation that is suspended on its process
(`Hosted.Waits`). A wait for the session to announce itself, for a reply or for an exit has a
deadline, which nothing but its end moves. Without one, an operation waits for the process to be
reaped once it was sent a kill, and for the process to take what is left of a line when its input is
full (`Guard.choked`). A session at rest gets there by one call whose line is long enough
(`HostedRun.chokes`).
-/

namespace NotebookEngine

namespace Session

open Host (Octets Machine)

variable {c : KernelConfig} {kills : List Nat}

/-! ### Waits -/

/-- What an operation waits for when it is suspended on its process. -/
inductive Wait where
  /-- A line must be written. -/
  | write
  /-- The session must announce itself. -/
  | handshake
  | reply
  /-- The process may leave by itself. -/
  | exit
  /-- The process must be reaped. -/
  | reaping
deriving DecidableEq

/-- What an operation waits for in a stage. -/
def Stage.wait? : Stage → Option Wait
  | .asking _ _ | .sending => some .write
  | .greeting _ => some .handshake
  | .awaiting => some .reply
  | .leaving _ _ => some .exit
  | .killed _ _ => some .reaping
  | _ => none

/-- The time allowed for a wait. -/
def Wait.allowance (c : KernelConfig) : Wait → Option Nat
  | .handshake => some c.startupTimeout
  | .reply => some c.requestTimeout
  | .exit => some c.shutdownGrace
  | .write | .reaping => none

/-- A sound manager in a stage that waits on a process listens to the session of that process. -/
theorem Manager.Sound.session_of_wait {m : Manager} {w : Wait}
    (sound : m.Sound) (wait : m.stage.wait? = some w) :
  ∃ l, m.session? = some l
  := by
  cases stage : m.stage <;> simp only [stage, Stage.wait?, reduceCtorEq] at wait
  case asking l _ | leaving l _ | killed l _ => exact ⟨l, by simp only [Manager.session?, stage]⟩
  case greeting | sending | awaiting =>
    obtain ⟨l, holds, -⟩ := sound.promises stage
    exact ⟨l, by simp only [Manager.session?, stage, holds.live]⟩

/-- A stage in which nothing is to be done waits on a process, or is over. -/
theorem Owes.wait_of_nil {s : Stage} {unwritten : Option Octets}
    (owes : Owes kills s [] unwritten) :
  s = .idle ∨ (∃ next, s = .closed next) ∨ (∃ code cellId, s = .calling code cellId)
    ∨ ∃ w, s.wait? = some w
  := by
  cases owes with
  | tell => exact .inl rfl
  | nothing bare => cases s <;> simp_all [Stage.isBare, Stage.wait?]
  | writing writes => cases s <;> simp_all [Stage.writes, Stage.wait?]
  | killed => exact .inr (.inr (.inr ⟨_, rfl⟩))

/-- Something is left of a line that must be written. -/
theorem Owes.rest_of_write {s : Stage} {unwritten : Option Octets}
    (owes : Owes kills s [] unwritten) (wait : s.wait? = some .write) :
  ∃ rest, unwritten = some rest
  := by
  cases owes with
  | writing => exact ⟨_, rfl⟩
  | nothing bare => cases s <;> simp_all [Stage.isBare, Stage.wait?]
  | tell | killed => cases wait

/-- A process that must be reaped was sent a kill, or is reaped already, and its output is not read. -/
theorem Owes.sent_of_reaping {s : Stage} {unwritten : Option Octets}
    (owes : Owes kills s [] unwritten) (wait : s.wait? = some .reaping) :
  ∃ l next, s = .killed l next ∧ l.reader.isReading = false
    ∧ (l.process ∈ kills ∨ l.reader.hasReaped = true)
  := by
  cases owes with
  | killed stopped sent => exact ⟨_, _, rfl, stopped, sent⟩
  | nothing bare => cases s <;> simp_all [Stage.isBare, Stage.wait?]
  | writing writes => cases s <;> simp_all [Stage.writes, Stage.wait?]
  | tell => cases wait

theorem Stage.allowance_eq (s : Stage) :
  s.allowance c = s.wait?.bind (Wait.allowance c)
  := by
  cases s <;> rfl

namespace Hosted

variable {x y : Hosted} {more : List Nat}

/-- The operation that is served is suspended: what it does is done, it does not go on by itself,
and no more of its line can be written. -/
structure Waits (x : Hosted) : Prop where
  serving : x.queue.serving ≠ none
  pending : x.pending = []
  proceed : x.queue.proceed = none
  pour : x.pour? = none

/-- What ends a wait on the process of a session. -/
inductive Guard (c : KernelConfig) (kills : List Nat) (x : Hosted) (l : Live) : Wait → Prop
  /-- The time allowed counts from some time on that is past. -/
  | timed {w : Wait} {t allowance : Nat} (allowed : w.allowance c = some allowance)
      (past : t ≤ x.machine.now) (deadline : x.deadline = some (t + allowance))
      (spared : l.process ∉ kills) : Guard c kills x l w
  /-- The kill was sent, or came too late. -/
  | killed (sent : l.process ∈ kills ∨ l.reader.hasReaped = true) (deadline : x.deadline = none) :
    Guard c kills x l .reaping
  /-- The input of the process is full, and only the process can change that. -/
  | choked {s : Machine.Started} {rest : Octets} (started : x.started = some s)
      (process : s.process = l.process) (unwritten : x.unwritten = some rest) (left : rest ≠ [])
      (full : Machine.pipeCapacity ≤ (x.machine.pipe s.input).content.length)
      (drained : x.machine.isDrained s.input = true) (deadline : x.deadline = none)
      (spared : l.process ∉ kills) : Guard c kills x l .write

/-- An operation that is suspended waits on the process of its session. -/
theorem Sound.wait_of_waits (sound : x.Sound c kills) (waits : x.Waits) :
  ∃ w, x.queue.manager.stage.wait? = some w
  := by
  have owes := sound.owes
  have proceed := waits.proceed
  rw [x.queue.proceed_of_busy waits.serving, Option.map_eq_none_iff] at proceed
  rw [waits.pending] at owes
  rcases owes.wait_of_nil with idle | ⟨next, stage⟩ | ⟨code, cellId, stage⟩ | wait
  · cases waits.serving (sound.tracks.free_iff.mpr idle)
  · simp [Manager.proceed, stage] at proceed
  · simp [Manager.proceed, stage] at proceed
  · exact wait

/-- Something ends every wait on a process, or its input is full. -/
theorem Sound.guard (sound : x.Sound c kills) (waits : x.Waits) :
  ∃ l w, x.queue.manager.session? = some l ∧ x.queue.manager.stage.wait? = some w
    ∧ x.Guard c kills l w
  := by
  obtain ⟨w, wait⟩ := sound.wait_of_waits waits
  obtain ⟨l, session⟩ := sound.tracks.sound.session_of_wait wait
  refine ⟨l, w, session, wait, ?_⟩
  obtain ⟨tracks, owes, t, past, timed⟩ := sound
  obtain ⟨s, started, process⟩ := tracks.held l session
  have spared (unsent : w ≠ .reaping) : l.process ∉ kills := by
    intro sent
    obtain ⟨next, stage⟩ := tracks.spared l session sent
    rw [stage] at wait
    exact unsent (Option.some.inj wait).symm
  rw [Stage.allowance_eq, wait, Option.bind_some] at timed
  rw [waits.pending] at owes
  cases w with
  | handshake | reply | exit => exact .timed rfl past timed (spared nofun)
  | write =>
      obtain ⟨rest, unwritten⟩ := owes.rest_of_write wait
      obtain ⟨left, full, drained⟩ := full_of_pour? waits.pour unwritten started
      exact .choked started process unwritten left full drained timed (spared nofun)
  | reaping =>
      obtain ⟨k, next, stage, -, sent⟩ := owes.sent_of_reaping wait
      obtain rfl : k = l := by simpa [Manager.session?, stage] using session
      exact .killed sent timed

end Hosted

@[simp]
theorem Stage.hear_wait? (s : Stage) (n : Nat) (o : Output) :
  (s.hear n o).wait? = s.wait?
  := by
  cases s <;> rfl

/-- When the time allowed is over, something else is waited for, or nothing. -/
theorem Manager.Sound.expire_wait {m : Manager} (sound : m.Sound)
    (allowed : (m.stage.allowance c).isSome = true) :
  m.expire.1.stage.wait? ≠ m.stage.wait?
  := by
  rcases Stage.of_allowance allowed with ⟨purpose, stage⟩ | stage | ⟨l, next, stage⟩
  · simp only [expire, stage]
    rcases m.close_stage (.answer (.failed (.kernelStartup (.silent m.config.startupTimeout)))) with
      closed | ⟨l, leaving | asking⟩
    · simp [closed, Stage.wait?]
    · simp [leaving, Stage.wait?]
    · simp [asking, Stage.wait?]
  · obtain ⟨l, holds, -⟩ := sound.promises stage
    simp [expire, stage, holds.live, endCall, Manager.finish, goDoing, Stage.wait?]
  · simp [expire, stage, goDoing, Stage.wait?]

/-! ### Deadlines -/

namespace Hosted

variable {x y : Hosted} {more : List Nat}

/-- What is waited for is still waited for, with the same deadline. -/
structure Stays (x y : Hosted) : Prop where
  wait : y.queue.manager.stage.wait? = x.queue.manager.stage.wait?
  deadline : y.deadline = x.deadline

/-- The time allowed for the stage counts from now on. -/
def Begins (x : Hosted) : Prop :=
  x.deadline = (x.queue.manager.stage.allowance x.queue.manager.config).map (x.machine.now + ·)

theorem begins_hear (x : Hosted) (e : Event) :
  (x.hear e).Begins
  := rfl

theorem stays_tell (x : Hosted) (n : Nat × Output × Machine) :
  x.Stays (x.tell n)
  := by
  obtain ⟨n, o, m⟩ := n
  obtain ⟨deadline, manager, -⟩ := x.tell_eq n o m
  refine ⟨?_, deadline⟩
  rw [manager, Manager.notice_stage, Stage.hear_wait?]

/-- To do something leaves what is waited for, or begins a stage. -/
theorem perform_deadline (x : Hosted) (es : List Effect) (e : Effect) :
  x.Stays ({ x with pending := es }.perform e) ∨ ({ x with pending := es }.perform e).Begins
  := by
  cases e with
  | outcome => exact .inl ⟨rfl, rfl⟩
  | act a =>
      cases a with
      | prepare =>
          right
          simp only [perform, prepare]
          split <;> apply begins_hear
      | spawn =>
          right
          simp only [perform, spawn]
          split <;> apply begins_hear
      | write | answer => exact .inl ⟨rfl, rfl⟩
      | closeInput | kill =>
          left
          simp only [perform]
          split <;> exact ⟨rfl, rfl⟩

/-- A step leaves what is waited for with its deadline, or begins a stage with a deadline of its
own. -/
theorem Step.deadline (step : x.Step more y) :
  x.Stays y ∨ y.Begins
  := by
  cases step with
  | come | elapses | fetched => exact .inl ⟨rfl, rfl⟩
  | told => exact .inl (x.stays_tell _)
  | next next =>
      cases goes_of_next next with
      | performed => exact x.perform_deadline _ _
      | proceeded | expired => exact .inr rfl
      | poured _ pours =>
          cases (pours_of_pour? pours).2 with
          | ended => exact .inr rfl
          | full => exact .inl ⟨rfl, rfl⟩
      | told => exact .inl (x.stays_tell _)
      | passed => exact .inl ⟨rfl, rfl⟩

/-- While an operation is suspended, only the end of the time allowed moves its deadline. -/
theorem Waits.step (waits : x.Waits) (step : x.Step more y) :
  x.Stays y ∨ x.isLate = true ∧ y = x.hear .expired
  := by
  cases step with
  | come | elapses | fetched => exact .inl ⟨rfl, rfl⟩
  | told => exact .inl (x.stays_tell _)
  | next next =>
      cases goes_of_next next with
      | performed pending => cases waits.pending.symm.trans pending
      | proceeded _ proceeds => cases waits.proceed.symm.trans proceeds
      | poured _ pours => cases waits.pour.symm.trans pours
      | told => exact .inl (x.stays_tell _)
      | expired _ _ _ late => exact .inr ⟨late, rfl⟩
      | passed => exact .inl ⟨rfl, rfl⟩

/-- When the time allowed is over and nothing has come, something else follows. -/
theorem Waits.expires (waits : x.Waits) (sound : x.Sound c kills) (late : x.isLate = true)
    (silent : x.stir? = none) :
  x.next = some (x.hear .expired)
    ∧ (x.hear .expired).queue.manager.stage.wait? ≠ x.queue.manager.stage.wait?
  := by
  have busy : x.queue.serving.isNone = false := Option.isNone_eq_false_iff.mpr
    (Option.isSome_iff_ne_none.mpr waits.serving)
  have proceed := waits.proceed
  rw [x.queue.proceed_of_busy waits.serving, Option.map_eq_none_iff] at proceed
  refine ⟨?_, ?_⟩
  · simp only [Hosted.next, waits.pending, waits.proceed, busy, silent, late]
    rfl
  · have stage : (x.hear .expired).queue.manager.stage = x.queue.manager.expire.1.stage := by
      change (x.queue.after (x.queue.manager.receive .expired)).1.manager.stage = _
      rw [Queue.after_manager, Manager.receive, proceed, Option.getD_none]
    rw [stage]
    exact sound.tracks.sound.expire_wait (sound.allowed_of_late late)

end Hosted

/-- In any run, a step leaves what an operation waits for with its deadline, or begins a stage whose
time allowed counts from then on. An operation that is suspended waits on the process of the
session, and what ends the wait is a deadline, a kill that was sent, or, if a line is being written
to a full input, nothing but the process. Only the end of the time allowed moves the deadline, and
then something else is waited for, or nothing. -/
theorem HostedRun.guarded {x : Hosted} (run : HostedRun c kills x) :
  (∀ more y, x.Step more y → x.Stays y ∨ y.Begins)
    ∧ (x.Waits → ∃ l w, x.queue.manager.session? = some l ∧ x.queue.manager.stage.wait? = some w
      ∧ x.Guard c kills l w
      ∧ (∀ more y, x.Step more y → x.Stays y ∨ x.isLate = true ∧ y = x.hear .expired)
      ∧ (x.isLate = true → x.stir? = none →
        x.next = some (x.hear .expired) ∧ (x.hear .expired).queue.manager.stage.wait? ≠ some w))
  := by
  refine ⟨fun _ _ step => step.deadline, fun waits => ?_⟩
  obtain ⟨l, w, session, wait, guard⟩ := run.sound.guard waits
  refine ⟨l, w, session, wait, guard, fun _ _ step => waits.step step, ?_⟩
  intro late silent
  rw [← wait]
  exact waits.expires run.sound late silent

/-! ### Calls that choke -/

namespace Hosted

variable {x y : Hosted} {s : Machine.Started}

theorem pipe_feed (m : Machine) {n : Nat} (octets : Octets) (inside : n < m.pipes.size) :
  (feed m n octets).pipe n = { m.pipe n with content := (m.pipe n).content ++ octets }
  := by
  simp [feed, Machine.pipe, Machine.setPipe, inside]

theorem isDrained_feed (m : Machine) {n : Nat} (octets : Octets) (inside : n < m.pipes.size) :
  (feed m n octets).isDrained n = m.isDrained n
  := by
  unfold Machine.isDrained
  rw [pipe_feed m octets inside]
  rfl

/-- A pipe that takes what it has room for has no more room. -/
theorem room_feed (m : Machine) {n : Nat} {octets : Octets} (inside : n < m.pipes.size)
    (long : m.room n < octets.length) :
  (feed m n (octets.take (m.room n))).room n = 0
  := by
  unfold Machine.room at long ⊢
  rw [pipe_feed m _ inside, List.length_append, List.length_take]
  omega

/-- The input of the process that was started last may still be read. -/
structure Takes (x : Hosted) (s : Machine.Started) : Prop where
  started : x.started = some s
  inside : s.input < x.machine.pipes.size
  drained : x.machine.isDrained s.input = true

theorem pour?_of_long {rest : Octets} (takes : x.Takes s) (unwritten : x.unwritten = some rest)
    (long : x.machine.room s.input < rest.length) :
  x.pour? = if x.machine.room s.input = 0 then none else some { x with
    unwritten := some (rest.drop (x.machine.room s.input))
    machine := feed x.machine s.input (rest.take (x.machine.room s.input)) }
  := by
  obtain ⟨started, -, drained⟩ := takes
  simp only [pour?, unwritten, started, drained, Nat.not_le.mpr long, Bool.not_true,
    Bool.false_eq_true, if_false]

theorem next_of_pour? (serving : x.queue.serving ≠ none) (pending : x.pending = [])
    (proceed : x.queue.proceed = none) (pours : x.pour? = some y) :
  x.next = some y
  := by
  have busy : x.queue.serving.isNone = false :=
    Option.isNone_eq_false_iff.mpr (Option.isSome_iff_ne_none.mpr serving)
  simp only [next, pending, proceed, busy, stir?, pours, Bool.false_eq_true, if_false]

end Hosted

/-- In a run, an operation or the queue goes on by itself. -/
theorem HostedRun.proceed {x : Hosted} {s : Queue × List Effect} (run : HostedRun c kills x)
    (pending : x.pending = []) (proceeds : x.queue.proceed = some s) :
  HostedRun c kills (x.step s)
  := by
  have next : x.next = some (x.step s) := by
    simp only [Hosted.next, pending, proceeds]
  have run := run.step (.next next)
  rwa [Hosted.kill?, pending, Option.toList_none, List.append_nil] at run

/-- In a run, the writing of a line begins. -/
theorem HostedRun.write {x : Hosted} {line : Text} {es : List Effect} (run : HostedRun c kills x)
    (pending : x.pending = .act (.write line) :: es) :
  HostedRun c kills { x with pending := es, unwritten := some (Octets.ofText line) }
  := by
  have next : x.next = some ({ x with pending := es }.perform (.act (.write line))) := by
    simp only [Hosted.next, pending]
  have run := run.step (.next next)
  rwa [Hosted.kill?, pending, Option.toList_none, List.append_nil] at run

/-- A line that is longer than the room in the input of its process chokes. -/
theorem HostedRun.pours {x : Hosted} {s : Machine.Started} {rest : Octets}
    (run : HostedRun c kills x) (serving : x.queue.serving ≠ none) (pending : x.pending = [])
    (stage : x.queue.manager.stage = .sending) (takes : x.Takes s)
    (unwritten : x.unwritten = some rest) (long : x.machine.room s.input < rest.length) :
  ∃ y, HostedRun c kills y ∧ y.Waits ∧ y.queue.manager.stage = .sending
  := by
  have proceed : x.queue.proceed = none := by
    rw [x.queue.proceed_of_busy serving]
    simp only [Manager.proceed, stage, Option.map_none]
  have pours := Hosted.pour?_of_long takes unwritten long
  by_cases full : x.machine.room s.input = 0
  · rw [if_pos full] at pours
    exact ⟨x, run, ⟨serving, pending, proceed, pours⟩, stage⟩
  · rw [if_neg full] at pours
    let y : Hosted := { x with
      unwritten := some (rest.drop (x.machine.room s.input))
      machine := Hosted.feed x.machine s.input (rest.take (x.machine.room s.input)) }
    have run := run.step (.next (Hosted.next_of_pour? (y := y) serving pending proceed pours))
    rw [Hosted.kill?, pending, Option.toList_none, List.append_nil] at run
    have room : y.machine.room s.input = 0 := Hosted.room_feed x.machine takes.inside long
    have takes' : y.Takes s := by
      refine ⟨takes.started, ?_, ?_⟩
      · simpa [y, Hosted.feed, Machine.setPipe] using takes.inside
      · exact (Hosted.isDrained_feed x.machine _ takes.inside).trans takes.drained
    have long' : y.machine.room s.input < (rest.drop (x.machine.room s.input)).length := by
      rw [room, List.length_drop]
      omega
    refine ⟨y, run, ⟨serving, pending, proceed, ?_⟩, stage⟩
    rw [Hosted.pour?_of_long takes' rfl long', if_pos room]

/-- The process of a session that is alive has not left. -/
theorem Manager.live_of_isAlive {m : Manager} (alive : m.isAlive = true) :
  ∃ l, m.live = some l ∧ l.slot.exited = none
  := by
  cases live : m.live with
  | none => simp [isAlive, live] at alive
  | some l =>
      simp only [isAlive, live, Option.any_some, Slot.isAlive, Slot.hasExited, Bool.and_eq_true,
        Bool.not_eq_true', Option.isSome_eq_false_iff, Option.isNone_iff_eq_none] at alive
      exact ⟨l, rfl, alive.1⟩

/-- A session is alive and at rest, and its process takes what is written to it. -/
structure Hosted.Ready (x : Hosted) (runtime : Text) (s : Machine.Started) : Prop where
  free : x.queue.serving = none
  nobody : x.queue.waiting = []
  pending : x.pending = []
  alive : x.queue.manager.isAlive = true
  runtime : x.queue.manager.runtime = some runtime
  takes : x.Takes s

/-- A session at rest chokes on one call, if the line of its request is longer than the room in the
input of the process. -/
theorem HostedRun.chokes {x : Hosted} {runtime : Text} {s : Machine.Started}
    (run : HostedRun c kills x) (ready : x.Ready runtime s) {code cellId : Text}
    (long : x.machine.room s.input < (Octets.ofText (Request.execute code cellId).line).length) :
  ∃ y, HostedRun c kills y ∧ y.Waits ∧ y.queue.manager.stage = .sending
  := by
  have idle : x.queue.manager.stage = .idle := run.sound.tracks.free_iff.mp ready.free
  obtain ⟨l, live, exited⟩ := Manager.live_of_isAlive ready.alive
  -- The caller comes and is served, his call begins, and its line is written.
  have run := run.quiet (.come 0 (.operate (.execute code cellId runtime)))
  have served : (x.submit 0 (.operate (.execute code cellId runtime))).queue.proceed
      = some ({ x.queue with
        manager := { x.queue.manager with stage := .calling code cellId }
        serving := some 0
        waiting := [] }, []) := by
    have knows : x.queue.manager.knows runtime = true :=
      Manager.knows_iff.mpr ⟨runtime, ready.runtime, .refl runtime⟩
    have fits : (x.queue.manager.isAlive && x.queue.manager.knows runtime) = true := by
      rw [ready.alive, knows, Bool.and_self]
    simp only [Hosted.submit, Queue.submit, Queue.proceed, ready.free, Queue.serveNext,
      ready.nobody, List.nil_append, Manager.receive, idle, Manager.take, if_pos fits]
    rfl
  replace run := run.proceed ready.pending served
  have begins : ({ x.queue with
        manager := { x.queue.manager with stage := .calling code cellId }
        serving := some 0
        waiting := [] } : Queue).proceed
      = some ({ x.queue with
        manager := { x.queue.manager with
          live := some { l with slot := { l.slot with call := .pending cellId } }
          stage := .sending }
        serving := some 0
        waiting := [] }, [.act (.write (Request.execute code cellId).line)]) := by
    have begin : l.slot.begin? cellId = .ok { l.slot with call := .pending cellId } := by
      simp [Slot.begin?, Slot.hasExited, exited]
    simp only [Queue.proceed, Manager.proceed, Manager.beginCall, live, begin, Option.map_some]
    rfl
  have pending : x.pending ++ [] = [] := by rw [ready.pending, List.append_nil]
  replace run := run.proceed pending begins
  have todo : x.pending ++ [] ++ [.act (.write (Request.execute code cellId).line)]
      = [Effect.act (.write (Request.execute code cellId).line)] := by
    rw [pending, List.nil_append]
  exact (run.write todo).pours (Option.some_ne_none 0) rfl rfl ⟨ready.takes.started, ready.takes.inside,
    ready.takes.drained⟩ rfl long

/-! ### A process that sleeps -/

/-- The line of a request is no shorter than the code in it. -/
theorem Request.length_le_line (code cellId : Text) :
  code.length ≤ (Octets.ofText (Request.execute code cellId).line).length
  := by
  have encoded (s : Text) : s.length ≤ (Octets.ofText s).length := by
    rw [Octets.ofText, Octets.ofBytes, List.length_map]
    apply Json.length_le_flatMap
    intro ch none
    have := ch.utf8Size_pos
    rw [← String.length_utf8EncodeChar, none] at this
    cases this
  have escaped := Json.length_le_flatMap_escapeChar code
  refine Nat.le_trans ?_ (encoded _)
  simp only [line, toJson, Json.Value.compact, Json.Value.compactMembers, Json.string,
    List.length_append, List.length_cons]
  omega

/-- A program that announces a session and then sleeps. -/
def sleeper : Host.Behaviour :=
  .ask (.write 1 "\x7b\"status\": \"ready\"\x7d\n".toList) fun _ =>
    .ask (.sleep 3000) fun _ => .ended 0

/-- The settings of a session with a script of its own. -/
def sleepyConfig : KernelConfig :=
  { script := some "kernel.py".toList }

/-- A queue on a machine whose only program is the sleeper. -/
def sleepy : Hosted where
  queue := { manager := { config := sleepyConfig } }
  machine := {
    files := ({} : Host.Files).put ["sleeper".toList] (.program "sleeper".toList)
    programs := fun _ _ _ => sleeper }
  site := {}
  scriptDirectory := []
  scriptId := []

/-- The session of the sleeper is wanted. -/
def Demand.sleeper : Demand :=
  .operate (.start "/sleeper".toList)

theorem sleepy_run :
  HostedRun sleepyConfig [] sleepy
  := .new ⟨rfl, rfl, rfl, rfl, rfl⟩

/-- While the sleeper has not announced its session yet, there is a deadline. -/
theorem guarded_sleepy :
  ∃ kills x, HostedRun sleepyConfig kills x ∧ x.Waits
    ∧ x.deadline = some sleepyConfig.startupTimeout
    ∧ ∃ l, x.queue.manager.session? = some l ∧ x.Guard sleepyConfig kills l .handshake
  := by
  obtain ⟨kills, run⟩ := (sleepy_run.quiet (.come 0 Demand.sleeper)).steps 3
  have waits : ((sleepy.submit 0 Demand.sleeper).steps 3).Waits := by
    refine ⟨?_, ?_, Option.isNone_iff_eq_none.mp ?_, Option.isNone_iff_eq_none.mp ?_⟩
    all_goals decide +kernel
  obtain ⟨l, w, session, wait, guard, -⟩ := run.guarded.2 waits
  have greeting : ((sleepy.submit 0 Demand.sleeper).steps 3).queue.manager.stage.wait?
      = some .handshake := by decide +kernel
  obtain rfl := Option.some.inj (greeting.symm.trans wait)
  exact ⟨_, _, run, waits, by decide +kernel, l, session, guard⟩

/-- A deadline is set, or the process of the session was sent a kill. -/
def Hosted.Bounded (kills : List Nat) (x : Hosted) : Prop :=
  x.deadline.isSome = true ∨ ∃ l ∈ x.queue.manager.session?, l.process ∈ kills

/-- The call of a long cell waits for the sleeper without a deadline, and the sleeper was not sent a
kill. -/
theorem not_bounded :
  ¬ ∀ kills x, HostedRun sleepyConfig kills x → x.Waits → x.Bounded kills
  := by
  intro bounded
  obtain ⟨kills, run⟩ := (sleepy_run.quiet (.come 0 Demand.sleeper)).steps 20
  have ready : ∃ s, ((sleepy.submit 0 Demand.sleeper).steps 20).Ready "/sleeper".toList s := by
    have takes : ∃ s ∈ ((sleepy.submit 0 Demand.sleeper).steps 20).started,
        s.input < ((sleepy.submit 0 Demand.sleeper).steps 20).machine.pipes.size
          ∧ ((sleepy.submit 0 Demand.sleeper).steps 20).machine.isDrained s.input = true := by
      decide +kernel
    obtain ⟨s, started, inside, drained⟩ := takes
    refine ⟨s, ?_, ?_, ?_, ?_, ?_, started, inside, drained⟩
    all_goals decide +kernel
  obtain ⟨s, ready⟩ := ready
  have long := Request.length_le_line (List.replicate (Machine.pipeCapacity + 1) 'x') "c1".toList
  rw [List.length_replicate] at long
  obtain ⟨x, run, waits, stage⟩ := run.chokes ready
    (Nat.lt_of_lt_of_le (Nat.lt_succ_of_le (Nat.sub_le _ _)) long)
  obtain ⟨l, w, session, wait, guard⟩ := run.sound.guard waits
  rw [stage] at wait
  obtain rfl := Option.some.inj wait
  cases guard with
  | timed allowed => cases allowed
  | choked _ _ _ _ _ _ deadline spared =>
      rcases bounded _ _ run waits with armed | ⟨k, session', sent⟩
      · rw [deadline] at armed
        cases armed
      · obtain rfl := Option.some.inj (session.symm.trans session')
        exact spared sent

end Session

end NotebookEngine
