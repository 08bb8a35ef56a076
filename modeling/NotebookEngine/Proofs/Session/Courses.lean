import NotebookEngine.Proofs.Host.Processes
import NotebookEngine.Proofs.Session.Results

/-!
# What a session does to its machine

While somebody is served, the queue makes steps and the machine goes on. `Hosted.Course` lists what
one step of both comes to for the processes of the host: only a start raises one, and when an exit is
noticed the process is gone. So the host waits for no process but those for which it waited before and
the one of the session, as long as that is not reaped (`Hosted.Course.attends`); for this one it does
wait, and the process has ended if it was sent a kill (`Hosted.Course.kept`).
-/

namespace NotebookEngine

namespace Session

open Host (Octets Machine)

variable {c : KernelConfig} {kills : List Nat}

/-- A process is started in a stage for it. -/
theorem Owes.stage_of_spawn {s : Stage} {path : Text} {arguments : List Text} {es : List Effect}
    {unwritten : Option Octets} (owes : Owes kills s (.act (.spawn path arguments) :: es) unwritten) :
  ∃ runtime purpose, s = .spawning runtime purpose
  := by
  cases owes with
  | tell told => nomatch told _ List.mem_cons_self
  | spawn => exact ⟨_, _, rfl⟩

namespace Hosted

variable {x y : Hosted}

/-! ### Steps -/

/-- The move brings no caller, no process and no exit, and a script is put at no other path than that
of the host. -/
structure Quiet (x : Hosted) (mv : QueueMove) : Prop where
  nobody : mv.call? = none
  unspawned : ∀ n, mv ≠ .hear (.spawned (.ok n))
  running : ∀ n code, mv ≠ .hear (.output n (.exited code))
  script : ∀ path, mv = .hear (.prepared (.ok path)) → path = x.scriptPath

/-- What a step comes to for the queue and for the processes of the host. -/
inductive Course (x y : Hosted) : Prop
  | stays (queue : y.queue = x.queue) (tends : x.machine.Tends y.machine)
  | moves {mv : QueueMove} {mv? : Option Move} {effects : List Effect}
      (step : QueueStep x.queue mv mv? y.queue effects) (quiet : x.Quiet mv)
      (tends : x.machine.Tends y.machine)
  /-- A process is started for a session. -/
  | starts {mv? : Option Move} {effects : List Effect} {s : Machine.Started} {l : Live}
      (step : QueueStep x.queue (.hear (.spawned (.ok s.process))) mv? y.queue effects)
      (free : x.queue.manager.session? = none) (session : y.queue.manager.session? = some l)
      (process : l.process = s.process) (reading : l.reader = .reading)
      (numbered : x.machine.Numbered → y.machine.Numbered)
      (hosts : ∀ n, y.machine.Hosts n → x.machine.Hosts n ∨ n = s.process)
      (hosted : y.machine.Hosts s.process) (fresh : x.machine.nextProcess ≤ s.process)
  /-- The process of the session has ended and is forgotten. -/
  | reaps {mv? : Option Move} {effects : List Effect} {n : Nat} {code : Option Int} {l : Live}
      (step : QueueStep x.queue (.hear (.output n (.exited code))) mv? y.queue effects)
      (session : x.queue.manager.session? = some l) (process : l.process = n)
      (reaping : l.reader = .reaping) (raises : x.machine.Raises y.machine)
      (gone : x.machine.Numbered → ¬y.machine.Hosts n)

namespace Course

/-- An event that is heard is a step of the queue. -/
theorem of_hear {z : Hosted} {e : Event} (call : e.isCall = false)
    (unspawned : ∀ n, e ≠ .spawned (.ok n)) (running : ∀ n code, e ≠ .output n (.exited code))
    (script : ∀ path, e = .prepared (.ok path) → path = x.scriptPath) (queue : z.queue = x.queue)
    (tends : x.machine.Tends z.machine) :
  x.Course (z.hear e)
  := by
  have step : QueueStep x.queue (.hear e) (some (.hear e)) (z.hear e).queue (z.queue.hear e).2 := by
    rw [← queue]
    exact .moved (.heard call) rfl
  have quiet : x.Quiet (.hear e) :=
    ⟨rfl, fun n same => unspawned n (QueueMove.hear.inj same),
      fun n code same => running n code (QueueMove.hear.inj same),
      fun path same => script path (QueueMove.hear.inj same)⟩
  exact .moves step quiet tends

/-- What is still to be done has nothing to do with it. -/
theorem of_pending {es : List Effect} (course : Course { x with pending := es } y) :
  x.Course y
  := by
  cases course with
  | stays queue tends => exact .stays queue tends
  | moves step quiet tends =>
      exact .moves step ⟨quiet.nobody, quiet.unspawned, quiet.running, quiet.script⟩ tends
  | starts step free session process reading numbered hosts hosted fresh =>
      exact .starts step free session process reading numbered hosts hosted fresh
  | reaps step session process reaping raises gone =>
      exact .reaps step session process reaping raises gone

theorem prepare (x : Hosted) :
  x.Course x.prepare
  := by
  unfold Hosted.prepare
  dsimp only
  split
  · exact of_hear rfl nofun nofun nofun rfl (.refl _)
  · refine of_hear rfl nofun nofun ?_ rfl (.of_same rfl rfl)
    rintro path ⟨⟩
    rfl

theorem spawn (x : Hosted) (path : Text) (arguments : List Text) {runtime : Text}
    {purpose : Purpose} (stage : x.queue.manager.stage = .spawning runtime purpose)
    (sound : x.queue.manager.Sound) :
  x.Course (x.spawn path arguments)
  := by
  unfold Hosted.spawn
  split
  case h_1 => exact of_hear rfl nofun nofun nofun rfl (.refl _)
  case h_2 m s started =>
    obtain ⟨numbered, hosts, hosted⟩ := Machine.start_hosts started
    have fresh := (Machine.start_later started).1
    have free : x.queue.manager.session? = none := by
      have vacant := sound.promises stage
      simp only [Manager.session?, stage, vacant.live]
    have manager : (x.queue.hear (.spawned (.ok s.process))).1.manager
        = { x.queue.manager with
            live := some { runtime, process := s.process }
            runtime := some runtime
            stage := .greeting purpose } := by
      rw [Queue.hear, Queue.after_manager]
      simp only [Manager.receive, stage]
      rfl
    have session : (x.queue.hear (.spawned (.ok s.process))).1.manager.session?
        = some { runtime, process := s.process } := by
      rw [manager]
      rfl
    exact .starts (.moved (.heard rfl) rfl) free session rfl rfl numbered hosts hosted
      (Nat.le_of_eq fresh.symm)

/-- What is first to be done is done. -/
theorem perform {e : Effect} {es : List Effect} (sound : x.Sound c kills)
    (pending : x.pending = e :: es) :
  x.Course ({ x with pending := es }.perform e)
  := by
  cases e with
  | outcome => exact .stays rfl (.refl _)
  | act a =>
      cases a with
      | prepare =>
          have course := prepare { x with pending := es }
          exact course.of_pending
      | spawn path arguments =>
          have owes := sound.owes
          rw [pending] at owes
          obtain ⟨runtime, purpose, stage⟩ := owes.stage_of_spawn
          have course := spawn { x with pending := es } path arguments stage sound.tracks.sound
          exact course.of_pending
      | write => exact .stays rfl (.refl _)
      | closeInput =>
          unfold Hosted.perform
          dsimp only
          split
          · exact .stays rfl (Machine.release_tends _)
          · exact .stays rfl (.refl _)
      | kill =>
          unfold Hosted.perform
          dsimp only
          split
          · exact .stays rfl (Machine.kill_tends _)
          · exact .stays rfl (.refl _)
      | answer => exact .stays rfl (.refl _)

theorem pour (pours : x.pour? = some y) :
  x.Course y
  := by
  unfold pour? at pours
  split at pours
  case h_1 => cases pours
  case h_2 =>
    obtain rfl := Option.some.inj pours
    exact of_hear rfl nofun nofun nofun rfl (.refl _)
  case h_3 rest s unwritten started =>
    dsimp only at pours
    split at pours
    · obtain rfl := Option.some.inj pours
      exact of_hear rfl nofun nofun nofun rfl (.refl _)
    · split at pours
      · obtain rfl := Option.some.inj pours
        exact of_hear rfl nofun nofun nofun rfl (.of_same rfl rfl)
      · split at pours
        · cases pours
        · obtain rfl := Option.some.inj pours
          exact .stays rfl (.of_same rfl rfl)

/-- The manager is told of what a process has done. -/
theorem tell {withExit : Bool} {n : Nat × Output × Machine}
    (noticed : x.noticed? withExit x.machine = some n) :
  x.Course (x.tell n)
  := by
  obtain ⟨n, o, m⟩ := n
  have step : QueueStep x.queue (.hear (.output n o)) (some (.hear (.output n o)))
      (x.queue.hear (.output n o)).1 (x.queue.hear (.output n o)).2 :=
    .moved (.heard rfl) rfl
  unfold noticed? at noticed
  split at noticed
  case h_2 => cases noticed
  case h_1 l s session started =>
    obtain ⟨⟨o', m'⟩, next, same⟩ := Option.map_eq_some_iff.mp noticed
    cases same
    have moves (running : ∀ code, o ≠ .exited code) (tends : x.machine.Tends m) :
        x.Course (x.tell (s.process, o, m)) := by
      refine .moves step ⟨rfl, nofun, ?_, nofun⟩ tends
      intro n code same
      exact running code (Event.output.inj (QueueMove.hear.inj same)).2
    unfold nextOutput at next
    split at next
    case isTrue => cases next
    case isFalse process =>
      split at next
      case h_1 => cases next
      case h_2 =>
        cases next
        exact moves nofun (.refl _)
      case h_3 reaping =>
        split at next
        case h_2 => cases next
        case h_1 status left =>
          split at next <;> cases next
          have released := Machine.release_tends (m := x.machine.forget s.process) s.output
          have raises := (released.trans (Machine.release_tends s.errors)).toRaises
          refine .reaps step session (not_not.mp process) reaping
            ((Machine.forget_raises _).trans raises) ?_
          intro numbered held
          have ended : x.machine.Ended s.process := numbered.ended (by rw [left]; rfl)
          exact ended.forget (raises.hosts _ held)
      case h_4 =>
        dsimp only at next
        split at next
        · cases next
          exact moves nofun (.of_same rfl rfl)
        · split at next
          · cases next
          · split at next <;> cases next
            · exact moves nofun (.refl _)
            · exact moves nofun (.of_same rfl rfl)

/-- Every step is one of these. -/
theorem of_next (sound : x.Sound c kills) (next : x.next = some y) :
  x.Course y
  := by
  cases goes_of_next next with
  | performed pending => exact perform sound pending
  | proceeded _ proceeds =>
      have possible : x.queue.move? .proceed = some _ := proceeds
      exact .moves (queueStep_of_move? possible) ⟨rfl, nofun, nofun, nofun⟩ (.refl _)
  | poured _ pours => exact pour pours
  | told _ _ _ _ noticed => exact tell noticed
  | expired => exact of_hear rfl nofun nofun nofun rfl (.refl _)
  | passed => exact .stays rfl x.pass_goesOn.tends

end Course

end Hosted

/-! ### Processes of the host -/

/-- A step of the queue that brings no exit leaves a session whose process is not reaped. -/
theorem QueueStep.unreaped {q q' : Queue} {mv : QueueMove} {mv? : Option Move}
    {effects : List Effect} (step : QueueStep q mv mv? q' effects) (sound : q.manager.Sound)
    (running : ∀ n code, mv ≠ .hear (.output n (.exited code))) {l : Live}
    (session : q.manager.session? = some l) (unreaped : l.reader.hasReaped = false) :
  ∃ l', q'.manager.session? = some l' ∧ l'.process = l.process ∧ l'.reader.hasReaped = false
  := by
  cases step with
  | came | told => exact ⟨l, session, rfl, unreaped⟩
  | @moved _ mv₀ q₀ s moves possible =>
      have exitless (n : Nat) (code : Option Int) : mv₀ ≠ .hear (.output n (.exited code)) := by
        rintro rfl
        cases moves with
        | heard => exact running n code rfl
      rw [Queue.after_manager]
      have steps := (transition_of_move? possible).session sound
      rw [session] at steps
      generalize s.1.session? = l? at steps
      cases steps with
      | left _ done =>
          rw [Reader.hasReaped_of_isDone done] at unreaped
          nomatch unreaped
      | @stays _ l' _ step =>
          refine ⟨l', rfl, step.process, ?_⟩
          rw [← Bool.not_eq_true, (step.reader session).hasReaped_iff]
          rintro (reaped | ⟨code, reaped⟩)
          · rw [unreaped] at reaped
            nomatch reaped
          · unfold Entry.reaped? at reaped
            split at reaped
            case h_1 move _ => exact exitless _ _ move
            case h_2 => nomatch reaped

/-- The host waits for no process of a machine but those for which it waited on another one, and that
of the session as long as it is not reaped. -/
def Attends (m₀ : Machine) (q : Queue) (m : Machine) : Prop :=
  ∀ n, m.Hosts n →
    m₀.Hosts n ∨ ∃ l, q.manager.session? = some l ∧ l.process = n ∧ l.reader.hasReaped = false

namespace Hosted

variable {x y : Hosted} {m₀ : Machine}

/-- Every step leaves it so. -/
theorem Course.attends (course : x.Course y) (sound : x.queue.manager.Sound)
    (numbered : x.machine.Numbered) (attends : Attends m₀ x.queue x.machine) :
  y.machine.Numbered ∧ Attends m₀ y.queue y.machine
  := by
  cases course with
  | stays queue tends =>
      refine ⟨tends.numbered numbered, ?_⟩
      intro n held
      rw [queue]
      exact attends n (tends.hosts n held)
  | moves step quiet tends =>
      refine ⟨tends.numbered numbered, ?_⟩
      intro n held
      rcases attends n (tends.hosts n held) with before | ⟨l, session, rfl, unreaped⟩
      · exact .inl before
      · exact .inr (step.unreaped sound quiet.running session unreaped)
  | @starts _ _ s l step free session process reading numbered' hosts hosted fresh =>
      refine ⟨numbered' numbered, ?_⟩
      intro n held
      rcases hosts n held with held | rfl
      · rcases attends n held with before | ⟨l, session, -⟩
        · exact .inl before
        · nomatch free.symm.trans session
      · exact .inr ⟨l, session, process, by rw [reading]; rfl⟩
  | @reaps _ _ n _ l step session process reaping raises gone =>
      refine ⟨raises.numbered numbered, ?_⟩
      intro k held
      rcases attends k (raises.hosts k held) with before | ⟨l', session', rfl, -⟩
      · exact .inl before
      · obtain rfl := Option.some.inj (session.symm.trans session')
        exact absurd (process ▸ held) (gone numbered)

end Hosted

/-! ### The process of the session -/

/-- A session that is not reaped after a step was not before it, unless its process has just been
started. -/
theorem QueueStep.unreaped_before {q q' : Queue} {mv : QueueMove} {mv? : Option Move}
    {effects : List Effect} (step : QueueStep q mv mv? q' effects) (sound : q.manager.Sound)
    (unspawned : ∀ n, mv ≠ .hear (.spawned (.ok n))) {l' : Live}
    (session : q'.manager.session? = some l') (unreaped : l'.reader.hasReaped = false) :
  ∃ l, q.manager.session? = some l ∧ l.process = l'.process ∧ l.reader.hasReaped = false
  := by
  cases step with
  | came | told => exact ⟨l', session, rfl, unreaped⟩
  | @moved _ mv₀ q₀ s moves possible =>
      have quiet (n : Nat) : mv₀ ≠ .hear (.spawned (.ok n)) := by
        rintro rfl
        cases moves with
        | heard => exact unspawned n rfl
      rw [Queue.after_manager] at session
      have steps := (transition_of_move? possible).session sound
      rw [session] at steps
      generalize before : q.manager.session? = l? at steps
      cases steps with
      | started started =>
          unfold Entry.started? at started
          split at started
          case h_1 move _ => exact absurd move (quiet _)
          case h_2 => cases started
      | @stays l _ _ step =>
          refine ⟨l, rfl, step.process.symm, ?_⟩
          rw [← Bool.not_eq_true] at unreaped ⊢
          exact fun reaped => unreaped ((step.reader before).hasReaped_iff.mpr (.inl reaped))

/-- The host waits for the process of a session that is not reaped, and the process has ended if it
was sent a kill. -/
def Kept (kills : List Nat) (q : Queue) (m : Machine) : Prop :=
  ∀ l, q.manager.session? = some l → l.reader.hasReaped = false →
    ∃ p ∈ m.processes, p.id = l.process ∧ p.parent = .host ∧ (l.process ∈ kills → p.status.isSome)

namespace Hosted

variable {x y : Hosted}

/-- A process that is sent a kill ends. -/
theorem ended_of_kill (numbered : x.machine.Numbered) (next : x.next = some y) :
  ∀ n ∈ x.kill?, y.machine.Ended n
  := by
  intro n sent
  unfold kill? at sent
  split at sent
  case h_1 es pending =>
    obtain ⟨s, started, rfl⟩ := Option.map_eq_some_iff.mp sent
    rw [Hosted.next, pending] at next
    obtain rfl := Option.some.inj next
    simp only [perform, started]
    exact numbered.ended_kill s.process
  case h_2 => cases sent

/-- Every step leaves it so. -/
theorem Course.kept {killed : Option Nat} (course : x.Course y)
    (tracks : Tracks c kills x.queue x.machine x.started) (numbered : x.machine.Numbered)
    (kept : Kept kills x.queue x.machine) (ended : ∀ n ∈ killed, y.machine.Ended n) :
  Kept (kills ++ killed.toList) y.queue y.machine
  := by
  -- What has become of a process that was kept before.
  have still {l : Live} (tends : x.machine.Tends y.machine)
      (session : x.queue.manager.session? = some l) (unreaped : l.reader.hasReaped = false) :
      ∃ p ∈ y.machine.processes, p.id = l.process ∧ p.parent = .host
        ∧ (l.process ∈ kills ++ killed.toList → p.status.isSome) := by
    obtain ⟨p, stands, same, parent, sent⟩ := kept l session unreaped
    obtain ⟨q, stands', becomes⟩ := tends.keeps numbered p stands parent
    refine ⟨q, stands', becomes.id.trans same, becomes.parent.trans parent, ?_⟩
    intro killed
    rcases List.mem_append.mp killed with before | now
    · exact becomes.status (sent before)
    · exact ended _ (Option.mem_toList.mp now) q stands' (becomes.id.trans same)
  intro l' session' unreaped'
  cases course with
  | stays queue tends =>
      rw [queue] at session'
      exact still tends session' unreaped'
  | moves step quiet tends =>
      obtain ⟨l, session, same, unreaped⟩ :=
        step.unreaped_before tracks.sound quiet.unspawned session' unreaped'
      rw [← same]
      exact still tends session unreaped
  | @starts _ _ s l step free session process reading numbered' hosts hosted fresh =>
      obtain rfl := Option.some.inj (session.symm.trans session')
      obtain ⟨p, stands, same, parent⟩ := hosted
      refine ⟨p, stands, same.trans process.symm, parent, ?_⟩
      intro sent
      rw [process] at sent
      rcases List.mem_append.mp sent with before | now
      · exact absurd (tracks.known _ before) (Nat.not_lt.mpr fresh)
      · exact ended _ (Option.mem_toList.mp now) p stands same
  | @reaps _ _ n _ l step session process reaping =>
      rw [step.receive, Manager.receive, Manager.notice_session?, session, Option.map_some] at session'
      obtain rfl := Option.some.inj session'
      obtain rfl := process
      simp only [Live.hear, Live.notice, reaping, if_true, Reader.hasReaped, reduceCtorEq] at unreaped'

/-! ### Hosts that tend their sessions -/

/-- The host waits for no process but those for which it waited before, and that of the session, for
which it does wait. -/
structure Tended (c : KernelConfig) (m₀ : Machine) (x : Hosted) : Prop where
  run : ∃ kills, HostedRun c kills x ∧ Kept kills x.queue x.machine
  numbered : x.machine.Numbered
  attends : Attends m₀ x.queue x.machine

variable {m₀ : Machine}

theorem Blank.tended (blank : x.Blank c) (numbered : x.machine.Numbered)
    (hosts : ∀ n, x.machine.Hosts n → m₀.Hosts n) :
  x.Tended c m₀
  := by
  refine ⟨⟨[], .new blank, ?_⟩, numbered, fun n held => .inl (hosts n held)⟩
  intro l session
  rw [blank.queue] at session
  cases session

namespace Tended

/-- So it is after every step. -/
theorem next (tended : x.Tended c m₀) (next : x.next = some y) :
  y.Tended c m₀
  := by
  obtain ⟨⟨kills, run, kept⟩, numbered, attends⟩ := tended
  have course := Course.of_next run.sound next
  obtain ⟨numbered', attends'⟩ := course.attends run.sound.tracks.sound numbered attends
  exact ⟨⟨_, run.step (.next next),
    course.kept run.sound.tracks numbered kept (ended_of_kill numbered next)⟩, numbered', attends'⟩

theorem tell {withExit : Bool} {n : Nat × Output × Machine} (tended : x.Tended c m₀)
    (noticed : x.noticed? withExit x.machine = some n) :
  (x.tell n).Tended c m₀
  := by
  obtain ⟨⟨kills, run, kept⟩, numbered, attends⟩ := tended
  have course := Course.tell noticed
  obtain ⟨numbered', attends'⟩ := course.attends run.sound.tracks.sound numbered attends
  have nobody : ∀ k ∈ (none : Option Nat), (x.tell n).machine.Ended k := nofun
  have kept' := course.kept run.sound.tracks numbered kept nobody
  rw [Option.toList_none, List.append_nil] at kept'
  exact ⟨⟨_, run.quiet (.told noticed), kept'⟩, numbered', attends'⟩

theorem steps (tended : x.Tended c m₀) (n : Nat) :
  (x.steps n).Tended c m₀
  := steps_keeps (P := Tended c m₀) (fun _ _ tended next => tended.next next) n tended

/-- Somebody may come. -/
theorem submit (tended : x.Tended c m₀) (ticket : Nat) (d : Demand) :
  Tended c m₀ ({ x with outcomes := [] }.submit ticket d)
  := by
  obtain ⟨⟨kills, run, kept⟩, numbered, attends⟩ := tended
  exact ⟨⟨_, (run.quiet (y := { x with outcomes := [] }) .fetched).quiet (.come ticket d), kept⟩,
    numbered, attends⟩

/-- So it is when he has been served. -/
theorem call {d : Demand} {o : Outcome} (tended : x.Tended c m₀) (called : x.call d = some (o, y)) :
  y.Tended c m₀
  := complete_keeps (P := Tended c m₀) (fun _ _ tended next => tended.next next)
    (fun _ _ tended noticed => tended.tell noticed) (call_eq_some_iff.mp called).1
    (tended.submit 0 d)

end Tended

end Hosted

end Session

end NotebookEngine
