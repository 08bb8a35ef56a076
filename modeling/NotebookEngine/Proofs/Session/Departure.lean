import NotebookEngine.Proofs.Host.Files
import NotebookEngine.Proofs.Session.Courses
import NotebookEngine.Proofs.Session.Deadlines

/-!
# Sessions that are shut down

What is left on a machine when a session is shut down and given up. A shutdown that returns leaves no
session (`Hosted.vacant_of_call`). When the session is given up, none is left of the processes that
were started for sessions (`Hosted.Tended.giveUp_hosts`).
-/

namespace NotebookEngine

namespace Session

open Host (Octets Machine)

variable {c : KernelConfig} {kills : List Nat} {m m' : Manager} {mv : Move} {actions : List Action}
  {q q' : Queue}

/-! ### Closing the last session -/

/-- When the session is closed, an answer is all that follows. -/
inductive Stage.Departs : Stage → Prop
  | idle : Departs .idle
  | closed {a : Answer} : Departs (.closed (.answer a))
  | asking {l : Live} {a : Answer} : Departs (.asking l (.answer a))
  | leaving {l : Live} {a : Answer} : Departs (.leaving l (.answer a))
  | killed {l : Live} {a : Answer} : Departs (.killed l (.answer a))

/-- The manager holds no session, and will hold none until it is called. -/
structure Manager.Departs (m : Manager) : Prop where
  vacant : Vacant m.live m.runtime
  stage : m.stage.Departs

/-- Closing the session forgets it. -/
theorem Manager.close_departs (m : Manager) (a : Answer) :
  (m.close (.answer a)).1.Departs
  := by
  unfold close
  split
  · exact ⟨⟨rfl, rfl⟩, .closed⟩
  · split
    · exact ⟨⟨rfl, rfl⟩, .leaving⟩
    · exact ⟨⟨rfl, rfl⟩, .asking⟩

theorem Transition.departs (step : Transition m mv m' actions) (departs : m.Departs)
    (uncalled : ∀ op, mv ≠ .hear (.call op)) :
  m'.Departs
  := by
  obtain ⟨vacant, departing⟩ := departs
  cases step with
  | ignored => exact ⟨vacant, departing⟩
  | @noticed n o =>
      generalize stage : m.stage = s at departing
      cases departing with
      | idle =>
          simp only [Manager.notice, stage]
          exact ⟨vacant.hear n o, .idle⟩
      | closed =>
          simp only [Manager.notice, stage]
          exact ⟨vacant.hear n o, .closed⟩
      | asking | leaving | killed =>
          simp only [Manager.notice, stage]
          exact ⟨vacant, by constructor⟩
  | closing why =>
      cases why with
      | start | execute | restart | shutdown => exact absurd rfl (uncalled _)
      | lost _ stage | silent stage =>
          rw [stage] at departing
          cases departing
  | kept => exact absurd rfl (uncalled _)
  | finished => exact ⟨vacant, .idle⟩
  | left _ stage =>
      rcases stage with stage | stage <;>
        · rw [stage] at departing
          cases departing
          exact ⟨vacant, .closed⟩
  | asked stage =>
      rw [stage] at departing
      cases departing
      exact ⟨vacant, .leaving⟩
  | killed stage =>
      rw [stage] at departing
      cases departing
      exact ⟨vacant, .killed⟩
  | preparing _ stage | spawning _ stage | prepared stage | spawned stage | greeted _ stage
      | begun _ stage | sent stage | ended stage =>
      rw [stage] at departing
      cases departing

/-- A shutdown is all that is waited for, or the last session is closed for nobody else. -/
inductive Queue.Departs (q : Queue) : Prop
  | comes {ticket : Nat} (free : q.serving = none)
      (alone : q.waiting = [(ticket, .operate .shutdown)])
  | goes (nobody : q.waiting = []) (departs : q.manager.Departs)

theorem QueueStep.departs {qmv : QueueMove} {mv? : Option Move} {effects : List Effect}
    (step : QueueStep q qmv mv? q' effects) (departs : q.Departs) (nobody : qmv.call? = none)
    (idle : q.serving = none → q.manager.stage = .idle) :
  q'.Departs
  := by
  cases step with
  | came => cases nobody
  | told free first =>
      cases departs with
      | comes _ alone => cases first.symm.trans alone
      | goes empty => cases first.symm.trans empty
  | @moved _ mv q₀ s moves possible =>
      have transition := transition_of_move? possible
      cases departs with
      | comes free alone =>
          cases moves with
          | taken _ first =>
              obtain ⟨same, rfl⟩ := List.cons.inj (first.symm.trans alone)
              obtain ⟨-, same⟩ := Prod.mk.inj same
              obtain rfl := Demand.operate.inj same
              -- The shutdown is taken up, whatever session is held: it is closed for an answer.
              have closes : s = q.manager.close (.answer .done) := by
                have shut : some s = q.manager.move? (.hear (.call .shutdown)) := possible.symm
                simpa only [Manager.move?, Manager.receive, idle free, Manager.take,
                  Option.some.injEq] using shut
              refine .goes (Queue.after_waiting _ _) ?_
              rw [Queue.after_manager, closes]
              exact q.manager.close_departs .done
          | heard =>
              rcases q.after_cases s with ⟨_, _, serving, -⟩ | ⟨-, after⟩
              · cases free.symm.trans serving
              · rw [after]
                exact .comes free alone
          | proceeded busy => cases free.symm.trans busy
      | goes empty departs =>
          have uncalled (op : Operation) : mv ≠ .hear (.call op) := by
            rintro rfl
            cases moves with
            | taken _ first => cases first.symm.trans empty
            | heard call => cases call
          refine .goes ?_ ?_
          · rw [Queue.after_waiting]
            exact List.subset_nil.mp (empty ▸ moves.waiting)
          · rw [Queue.after_manager]
            exact transition.departs departs uncalled

namespace Hosted

variable {x y : Hosted} {m₀ : Machine}

/-! ### Runs that serve a caller -/

/-- What every step of a run keeps is kept when somebody comes and is served. -/
theorem call_keeps {P : Hosted → Prop} {d : Demand} {o : Outcome} (run : HostedRun c kills x)
    (called : x.call d = some (o, y))
    (step : ∀ x y kills, HostedRun c kills x → P x → x.Course y →
      (x.next = some y ∨ ∃ n, x.noticed? false x.machine = some n ∧ y = x.tell n) → P y)
    (holds : P ({ x with outcomes := [] }.submit 0 d)) :
  P y ∧ ∃ kills', HostedRun c kills' y
  := by
  have run := (run.quiet (y := { x with outcomes := [] }) .fetched).quiet (.come 0 d)
  have keeps : (∃ kills', HostedRun c kills' y) ∧ P y := by
    refine complete_keeps (P := fun x => (∃ kills', HostedRun c kills' x) ∧ P x) ?_ ?_
      (call_eq_some_iff.mp called).1 ⟨⟨_, run⟩, holds⟩
    · rintro x y ⟨⟨kills', run⟩, holds⟩ next
      exact ⟨⟨_, run.step (.next next)⟩, step x y _ run holds (.of_next run.sound next) (.inl next)⟩
    · rintro x n ⟨⟨kills', run⟩, holds⟩ noticed
      exact ⟨⟨_, run.quiet (.told noticed)⟩,
        step x _ _ run holds (.tell noticed) (.inr ⟨n, noticed, rfl⟩)⟩
  exact keeps.symm

/-- What a step comes to for the queue. -/
theorem Course.queue (course : x.Course y) :
  y.queue = x.queue ∨ ∃ mv mv? effects, QueueStep x.queue mv mv? y.queue effects
    ∧ mv.call? = none ∧ ∀ path, mv = .hear (.prepared (.ok path)) → path = x.scriptPath
  := by
  cases course with
  | stays queue => exact .inl queue
  | moves step quiet => exact .inr ⟨_, _, _, step, quiet.nobody, quiet.script⟩
  | starts step => exact .inr ⟨_, _, _, step, rfl, nofun⟩
  | reaps step => exact .inr ⟨_, _, _, step, rfl, nofun⟩

/-- A shutdown that returns leaves no session. -/
theorem vacant_of_call {o : Outcome} (run : HostedRun c kills x) (rests : x.Rests)
    (called : x.call (.operate .shutdown) = some (o, y)) :
  y.queue.manager.stage = .idle ∧ Vacant y.queue.manager.live y.queue.manager.runtime
  := by
  have comes : Queue.Departs (x.queue.submit 0 (.operate .shutdown)) :=
    .comes rests.free (by rw [Queue.submit, rests.nobody]; rfl)
  obtain ⟨departs, kills', run⟩ : y.queue.Departs ∧ ∃ kills', HostedRun c kills' y := by
    refine call_keeps (P := fun x => x.queue.Departs) run called ?_ comes
    intro x y kills' run departs course _
    rcases course.queue with same | ⟨mv, mv?, effects, step, nobody, -⟩
    · rwa [same]
    · exact step.departs departs nobody run.sound.tracks.free_iff.mp
  have returned := call_rests called
  refine ⟨run.sound.tracks.free_iff.mp returned.free, ?_⟩
  cases departs with
  | comes _ alone => cases alone.symm.trans returned.nobody
  | goes _ departs => exact departs.vacant

/-! ### Processes -/

/-- When there is no session, it waits for no others than before. -/
theorem Tended.hosts_of_vacant (tended : x.Tended c m₀)
    (vacant : x.queue.manager.session? = none) {n : Nat} (held : x.machine.Hosts n) :
  m₀.Hosts n
  := by
  rcases tended.attends n held with before | ⟨l, session, -⟩
  · exact before
  · nomatch vacant.symm.trans session

/-- The machine without the process of the session. -/
def released (x : Hosted) : Machine :=
  match x.started with
  | some s => ((x.machine.kill s.process).forget s.process).release s.input
  | none => x.machine

@[simp]
theorem released_files (x : Hosted) :
  x.released.files = x.machine.files
  := by
  unfold released
  split
  case h_1 s _ => exact Machine.kill_files s.process
  case h_2 => rfl

/-- To give up a session is to let its process go and to remove the script. -/
theorem giveUp_eq (x : Hosted) :
  x.giveUp = { x.released with files :=
    match x.queue.manager.bundledScript with
    | none => x.machine.files
    | some path =>
      x.machine.files.settled (x.machine.files.remove x.site.directory (Octets.ofText path)) }
  := by
  rw [← released_files x]
  unfold giveUp
  cases x.queue.manager.bundledScript <;> rfl

/-- When the session is given up, there are no others any more. -/
theorem Tended.giveUp_hosts (tended : x.Tended c m₀) {n : Nat} (held : x.giveUp.Hosts n) :
  m₀.Hosts n
  := by
  obtain ⟨⟨kills, run, -⟩, numbered, attends⟩ := tended
  have tracked := run.sound.tracks.held
  rw [giveUp_eq] at held
  have held : x.released.Hosts n := held
  unfold released at held
  split at held
  case h_1 s started =>
    have ended := numbered.ended_kill s.process
    have raises := (x.machine.kill_tends s.process).toRaises.trans (Machine.forget_raises s.process)
    have held : ((x.machine.kill s.process).forget s.process).Hosts n := held
    -- A process of the session is the one that was started last, which is gone.
    rcases attends n (raises.hosts n held) with before | ⟨l, session, rfl, -⟩
    · exact before
    · obtain ⟨s', given, process⟩ := tracked l session
      obtain rfl := Option.some.inj (started.symm.trans given)
      exact absurd (process ▸ held) ended.forget
  case h_2 started =>
    rcases attends n held with before | ⟨l, session, -⟩
    · exact before
    · obtain ⟨s, given, -⟩ := tracked l session
      nomatch started.symm.trans given

/-! ### Shutdowns -/

/-- The session is closed: no operation is worked on, none is held, and the host waits for no process
but those for which it waited before. -/
structure Closed (m₀ : Machine) (x : Hosted) : Prop where
  stage : x.queue.manager.stage = .idle
  vacant : Vacant x.queue.manager.live x.queue.manager.runtime
  hosts : ∀ n, x.machine.Hosts n → m₀.Hosts n

/-- A session is closed by a shutdown that returns. -/
theorem Tended.closed {o : Outcome} (tended : x.Tended c m₀) (rests : x.Rests)
    (called : x.call (.operate .shutdown) = some (o, y)) :
  y.Closed m₀
  := by
  obtain ⟨kills, run, -⟩ := tended.run
  obtain ⟨stage, vacant⟩ := vacant_of_call run rests called
  refine ⟨stage, vacant, fun n held => ?_⟩
  apply (tended.call called).hosts_of_vacant ?_ held
  simp only [Manager.session?, stage, vacant.live]

/-! ### Sessions that nobody has used -/

namespace Blank

/-- They do not hang on what happens on the machine. -/
theorem elapsed (blank : x.Blank c) (machine : Machine) :
  Blank c { x with machine }
  := ⟨blank.queue, blank.started, blank.deadline, blank.pending, blank.unwritten⟩

end Blank

end Hosted

end Session

end NotebookEngine
