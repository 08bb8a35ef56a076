import Mathlib.Data.Prod.Lex
import Mathlib.Order.OrderIsoNat
import NotebookEngine.Proofs.Session.Courses
import NotebookEngine.Proofs.Session.Deadlines

/-!
# Calls that come to an end

With every step of a queue on its machine less is left to be done (`Hosted.weight`), or an operation
stays suspended. It does not stay so for ever: the time allowed runs out or a process that was killed
is reaped (`Hosted.patience`), unless the process must take what is left of a line. So a queue goes on
for ever exactly when a line chokes it (`Hosted.Tended.goOn_eq_none_iff`): from some step on, the input
of the process is full and the same octets wait for it.
-/

namespace NotebookEngine

namespace Session

open Host (Octets Machine)

variable {c : KernelConfig} {kills : List Nat}

/-! ### What is left to be done -/

namespace Queue

/-- How much is left to be done for those who wait and for the one who is served. -/
def load (q : Queue) : Nat :=
  15 * q.waiting.length + q.manager.stage.rank

theorem load_hear {q : Queue} {e : Event}
    (lower : (q.manager.receive e).1.stage.rank < q.manager.stage.rank) :
  (q.hear e).1.load < q.load
  := by
  simp only [load, hear, after_waiting, after_manager]
  exact Nat.add_lt_add_left lower _

/-- When a queue goes on, less is left to be done. -/
theorem load_proceed {q : Queue} {s : Queue × List Effect} (proceeds : q.proceed = some s)
    (free_iff : q.serving = none ↔ q.manager.stage = .idle) :
  s.1.load < q.load
  := by
  unfold proceed at proceeds
  split at proceeds
  case h_1 free =>
    unfold serveNext at proceeds
    split at proceeds
    case h_1 ticket rest _ waiting =>
      obtain rfl := Option.some.inj proceeds
      simp only [load, waiting, List.length_cons]
      omega
    case h_2 ticket op rest _ waiting =>
      obtain rfl := Option.some.inj proceeds
      have rank := (q.manager.receive (.call op)).1.stage.rank_le
      simp only [load, waiting, after_waiting, after_manager, List.length_cons]
      omega
    case h_3 => cases proceeds
  case h_2 ticket serving =>
    obtain ⟨step, goes, rfl⟩ := Option.map_eq_some_iff.mp proceeds
    have busy := busy_of_serving serving free_iff
    simp only [load, after_waiting, after_manager]
    exact Nat.add_lt_add_left (Manager.proceed_rank busy goes) _

end Queue

/-- The script is put in place in a stage for it. -/
theorem Owes.stage_of_prepare {s : Stage} {es : List Effect} {unwritten : Option Octets}
    (owes : Owes kills s (.act .prepare :: es) unwritten) :
  ∃ runtime purpose, s = .preparing runtime purpose
  := by
  cases owes with
  | tell told => nomatch told _ List.mem_cons_self
  | prepare => exact ⟨_, _, rfl⟩

namespace Hosted

variable {x y : Hosted} {m₀ : Machine}

/-- How much is left to be done, and how much of it to be written. -/
def weight (x : Hosted) : Nat ×ₗ Nat ×ₗ Nat :=
  toLex (x.queue.load, toLex (x.pending.length, x.unwritten.elim 0 List.length))

theorem weight_of_load (lower : y.queue.load < x.queue.load) :
  y.weight < x.weight
  := Prod.Lex.toLex_lt_toLex.mpr (.inl lower)

theorem weight_of_pending (queue : y.queue = x.queue) (fewer : y.pending.length < x.pending.length) :
  y.weight < x.weight
  := by
  apply Prod.Lex.toLex_lt_toLex.mpr (.inr ⟨congrArg Queue.load queue, ?_⟩)
  exact Prod.Lex.toLex_lt_toLex.mpr (.inl fewer)

theorem weight_of_unwritten (queue : y.queue = x.queue) (pending : y.pending = x.pending)
    (shorter : y.unwritten.elim 0 List.length < x.unwritten.elim 0 List.length) :
  y.weight < x.weight
  := by
  apply Prod.Lex.toLex_lt_toLex.mpr (.inr ⟨congrArg Queue.load queue, ?_⟩)
  exact Prod.Lex.toLex_lt_toLex.mpr (.inr ⟨congrArg List.length pending, shorter⟩)

/-- When something is done, less is left. -/
theorem Sound.weight_perform {e : Effect} {es : List Effect} (sound : x.Sound c kills)
    (pending : x.pending = e :: es) :
  ({ x with pending := es }.perform e).weight < x.weight
  := by
  have fewer : es.length < x.pending.length := by
    rw [pending]
    exact Nat.lt_succ_self _
  have owes := sound.owes
  rw [pending] at owes
  cases e with
  | outcome => exact weight_of_pending rfl fewer
  | act a =>
      cases a with
      | prepare =>
          obtain ⟨runtime, purpose, stage⟩ := owes.stage_of_prepare
          unfold Hosted.perform Hosted.prepare
          dsimp only
          split <;> exact weight_of_load (Queue.load_hear (Manager.prepared_rank stage _))
      | spawn path arguments =>
          obtain ⟨runtime, purpose, stage⟩ := owes.stage_of_spawn
          unfold Hosted.perform Hosted.spawn
          dsimp only
          split <;> exact weight_of_load (Queue.load_hear (Manager.spawned_rank stage _))
      | write | answer => exact weight_of_pending rfl fewer
      | closeInput | kill =>
          unfold Hosted.perform
          dsimp only
          split <;> exact weight_of_pending rfl fewer

/-- When more of a line is written, less is left. -/
theorem Sound.weight_pour (sound : x.Sound c kills) (pours : x.pour? = some y) :
  y.weight < x.weight
  := by
  obtain ⟨⟨rest, unwritten⟩, pours⟩ := pours_of_pour? pours
  have owes := sound.owes
  rw [unwritten] at owes
  obtain ⟨-, writes⟩ := owes.writes_of_rest
  cases pours with
  | @ended m ok => exact weight_of_load (Queue.load_hear (Manager.written_rank writes ok))
  | full later before shorter =>
      refine weight_of_unwritten (x := x) rfl rfl ?_
      rw [before]
      exact shorter

theorem stir?_eq_none_iff :
  x.stir? = none ↔ x.pour? = none ∧ x.noticed? true x.machine = none
  := by
  unfold stir?
  split
  case h_1 pours => simp [pours]
  case h_2 stuck => simp [stuck]

/-! ### Operations that stay suspended -/

/-- An operation stays suspended: it hears of its process, time passes, or nothing comes any more. -/
inductive Lingers (x : Hosted) : Hosted → Prop
  | told {n : Nat × Output × Machine} (noticed : x.noticed? true x.machine = some n) :
    Lingers x (x.tell n)
  | passed (still : x.stir? = none) (early : x.isLate = false) : Lingers x x.pass
  | last (still : x.stir? = none) (untimed : x.deadline = none) : Lingers x x

namespace Lingers

/-- What was waited for is still waited for. -/
theorem wait (lingers : x.Lingers y) :
  y.queue.manager.stage.wait? = x.queue.manager.stage.wait?
  := by
  cases lingers with
  | told => exact (x.stays_tell _).wait
  | passed | last => rfl

/-- What is left of a line is still left of it. -/
theorem unwritten (lingers : x.Lingers y) :
  y.started = x.started ∧ y.unwritten = x.unwritten
  := by
  cases lingers <;> exact ⟨rfl, rfl⟩

theorem weight (lingers : x.Lingers y) :
  y.weight = x.weight
  := by
  cases lingers with
  | told =>
      rename_i n noticed
      obtain ⟨n, o, m⟩ := n
      obtain ⟨-, manager, pending⟩ := x.tell_eq n o m
      have load : (x.tell (n, o, m)).queue.load = x.queue.load := by
        rw [Queue.load, manager, Manager.notice_stage, Stage.hear_rank]
        simp only [tell, Queue.hear, Queue.after_waiting, Queue.load]
      rw [Hosted.weight, load, pending]
      rfl
  | passed | last => rfl

end Lingers

/-- When nothing comes any more while somebody is served, his operation is suspended for good. -/
theorem waits_of_last (last : x.next = none) (serving : x.queue.serving ≠ none) :
  x.Waits ∧ x.Lingers x
  := by
  unfold Hosted.next at last
  split at last
  case h_1 => cases last
  case h_2 pending =>
    split at last
    case h_1 => cases last
    case h_2 waits =>
      split at last
      case isTrue free => exact absurd (Option.isNone_iff_eq_none.mp free) serving
      case isFalse =>
        split at last
        case h_1 => cases last
        case h_2 still =>
          split at last
          case isTrue => cases last
          case isFalse =>
            dsimp only at last
            split at last
            case isFalse => cases last
            case isTrue quiet =>
              simp only [Bool.and_eq_true, Option.isNone_iff_eq_none] at quiet
              have untimed : x.deadline = none := quiet.1.1
              have stuck := (stir?_eq_none_iff.mp still).1
              exact ⟨⟨serving, pending, waits, stuck⟩, .last still untimed⟩

/-- With every step less is left to be done, or an operation stays suspended, or nobody is served any
more. -/
theorem Sound.weighs (sound : x.Sound c kills) :
  (x.steps 1).weight < x.weight ∨ x.Waits ∧ x.Lingers (x.steps 1)
    ∨ x.next = none ∧ x.queue.serving = none
  := by
  cases next : x.next with
  | none =>
      rw [steps_of_last next]
      by_cases free : x.queue.serving = none
      · exact .inr (.inr ⟨rfl, free⟩)
      · exact .inr (.inl (waits_of_last next free))
  | some y =>
      rw [steps_succ 0 next, Hosted.steps]
      cases goes_of_next next with
      | performed pending => exact .inl (sound.weight_perform pending)
      | proceeded _ proceeds =>
          exact .inl (weight_of_load (Queue.load_proceed proceeds sound.tracks.free_iff))
      | poured _ pours => exact .inl (sound.weight_pour pours)
      | told pending serving waits stuck noticed =>
          exact .inr (.inl ⟨⟨serving, pending, waits, stuck⟩, .told noticed⟩)
      | expired _ _ _ late =>
          have allowed := sound.allowed_of_late late
          have rank := sound.tracks.sound.expired_rank allowed
          exact .inl (weight_of_load (Queue.load_hear rank))
      | passed pending serving waits still early =>
          have stuck := (stir?_eq_none_iff.mp still).1
          exact .inr (.inl ⟨⟨serving, pending, waits, stuck⟩, .passed still early⟩)

/-! ### What ends a suspension -/

theorem nextOutput_now {withExit : Bool} {l : Live} {s : Machine.Started} {m m' : Machine}
    {o : Output} (noticed : nextOutput withExit l s m = some (o, m')) :
  m'.now = m.now
  := by
  unfold nextOutput at noticed
  split at noticed
  · cases noticed
  · split at noticed
    · cases noticed
    · cases noticed
      rfl
    · split at noticed
      · split at noticed <;> cases noticed
        rfl
      · cases noticed
    · dsimp only at noticed
      split at noticed
      · cases noticed
        rfl
      · split at noticed
        · cases noticed
        · split at noticed <;> cases noticed <;> rfl

/-- A pipe in which less is left. -/
theorem length_setPipe {m : Machine} {n : Nat} {rest : Octets}
    (shorter : rest.length < (m.pipe n).content.length) :
  ((m.setPipe n { m.pipe n with content := rest }).pipe n).content.length
    < (m.pipe n).content.length
  := by
  have inside : n < m.pipes.size := by
    by_contra outside
    simp [Machine.pipe, outside] at shorter
  simpa [Machine.pipe, Machine.setPipe, inside] using shorter

/-- Once a line has come, no more is left to be noticed than before it, if as much is left to be
read. -/
theorem Live.left_of_line {l : Live} (reading : l.reader = .reading) (octets : Bytes) (n : Nat) :
  (l.notice (.line octets)).reader.left n ≤ n + ExitPart.all.length + 2
  := by
  cases decoded : Utf8.decode? octets <;> simp only [Live.notice, reading, decoded, Reader.left]
  · omega
  · exact Nat.le_refl _

/-- When a session takes notice of something, less is left to be noticed. -/
theorem nextOutput_left {withExit : Bool} {l : Live} {s : Machine.Started} {m m' : Machine}
    {o : Output} (noticed : nextOutput withExit l s m = some (o, m')) :
  (l.hear s.process o).reader.left (m'.pipe s.output).content.length
    < l.reader.left (m.pipe s.output).content.length
  := by
  unfold nextOutput at noticed
  split at noticed
  case isTrue => cases noticed
  case isFalse process =>
    rw [Live.hear, if_pos (not_not.mp process)]
    split at noticed
    case h_1 => cases noticed
    case h_2 code p left reader =>
      cases noticed
      simp only [Live.notice, reader, Reader.left, List.length_cons]
      omega
    case h_3 reader =>
      split at noticed
      case h_2 => cases noticed
      case h_1 =>
        split at noticed <;> cases noticed
        simp only [Live.notice, reader, Reader.left]
        omega
    case h_4 reader =>
      dsimp only at noticed
      generalize begins : (m.pipe s.output).content.takeWhile (· ≠ '\n') = line at noticed
      split at noticed
      case isTrue ends =>
        cases noticed
        have dropped : ((m.pipe s.output).content.drop (line.length + 1)).length
            < (m.pipe s.output).content.length := by
          rw [List.length_drop]
          omega
        have shorter := length_setPipe dropped
        rw [reader]
        exact Nat.lt_of_le_of_lt (Live.left_of_line reader _ _)
          (Nat.add_lt_add_right (Nat.add_lt_add_right shorter _) _)
      case isFalse =>
        split at noticed
        case isTrue => cases noticed
        case isFalse =>
          split at noticed
          case isTrue =>
            cases noticed
            simp only [Live.notice, reader, Reader.stop, Reader.left]
            omega
          case isFalse whole =>
            cases noticed
            have some : ([] : Octets).length < (m.pipe s.output).content.length := by
              apply List.length_pos_iff.mpr
              intro none
              rw [none, List.takeWhile_nil] at begins
              exact whole (begins ▸ rfl)
            have shorter := length_setPipe some
            rw [reader]
            exact Nat.lt_of_le_of_lt (Live.left_of_line reader _ _)
              (Nat.add_lt_add_right (Nat.add_lt_add_right shorter _) _)

/-- How much time is left, and how much to be noticed. -/
def patience (x : Hosted) : Nat ×ₗ Nat :=
  toLex (x.deadline.elim 0 (· - x.machine.now), x.unheard)

/-- When an operation hears of its process, less is left to be noticed. -/
theorem patience_tell {withExit : Bool} {n : Nat × Output × Machine}
    (noticed : x.noticed? withExit x.machine = some n) :
  (x.tell n).patience < x.patience
  := by
  obtain ⟨n, o, m⟩ := n
  have manager := (x.tell_eq n o m).2.1
  unfold noticed? at noticed
  split at noticed
  case h_2 => cases noticed
  case h_1 l s session started =>
    obtain ⟨⟨o', m'⟩, next, same⟩ := Option.map_eq_some_iff.mp noticed
    cases same
    have session' : (x.tell (s.process, o, m)).queue.manager.session? = some (l.hear s.process o) := by
      rw [manager, Manager.notice_session?, session, Option.map_some]
    have now : m.now = x.machine.now := nextOutput_now next
    apply Prod.Lex.toLex_lt_toLex.mpr (.inr ⟨?_, ?_⟩)
    · change x.deadline.elim 0 (· - m.now) = _
      rw [now]
    · have started' : (x.tell (s.process, o, m)).started = some s := started
      have unheard : (x.tell (s.process, o, m)).unheard
          = (l.hear s.process o).reader.left (m.pipe s.output).content.length := by
        simp only [Hosted.unheard, session', started']
        rfl
      have before : x.unheard = l.reader.left (x.machine.pipe s.output).content.length := by
        simp only [Hosted.unheard, session, started]
      rw [unheard, before]
      exact nextOutput_left next

/-- While time is allowed, less of it is left when it passes. -/
theorem patience_pass {d : Nat} (deadline : x.deadline = some d) (early : x.isLate = false) :
  x.pass.patience < x.patience
  := by
  have later : x.machine.now + 1 ≤ x.pass.machine.now := Nat.le_max_right _ _
  have left : x.machine.now < d := by simpa [isLate, deadline] using early
  have deadline' : x.pass.deadline = some d := deadline
  apply Prod.Lex.toLex_lt_toLex.mpr (.inl ?_)
  simp only [deadline, deadline', Option.elim_some]
  omega

/-- A process that was killed is reaped. -/
theorem Tended.stirs_of_reaping (tended : x.Tended c m₀) (waits : x.Waits)
    (wait : x.queue.manager.stage.wait? = some .reaping) :
  x.stir? ≠ none
  := by
  obtain ⟨⟨kills, run, kept⟩, numbered, -⟩ := tended
  obtain ⟨tracks, owes, -⟩ := run.sound
  have proceed := waits.proceed
  rw [x.queue.proceed_of_busy waits.serving, Option.map_eq_none_iff] at proceed
  rw [waits.pending] at owes
  obtain ⟨l, next, stage, stopped, sent⟩ := owes.sent_of_reaping wait
  have session : x.queue.manager.session? = some l := by simp only [Manager.session?, stage]
  obtain ⟨s, started, process⟩ := tracks.held l session
  rw [Ne, stir?_eq_none_iff, not_and]
  intro _ unnoticed
  simp only [noticed?, session, Option.mem_def.mp started, Option.map_eq_none_iff, nextOutput,
    process, ne_eq, not_true_eq_false, if_false] at unnoticed
  cases reader : l.reader with
  | reading =>
      rw [reader] at stopped
      cases stopped
  | reaping =>
      have unreaped : l.reader.hasReaped = false := by rw [reader]; rfl
      obtain ⟨p, stands, same, -, ended⟩ := kept l session unreaped
      rcases sent with sent | reaped
      · have status := numbered.statusOf_isSome stands (ended sent)
        rw [same] at status
        obtain ⟨status, left⟩ := Option.isSome_iff_exists.mp status
        simp [reader, left] at unnoticed
      · cases unreaped.symm.trans reaped
  | recording code left =>
      cases left with
      | nil => simp [Manager.proceed, stage, reader, Reader.isDone] at proceed
      | cons p left => simp [reader] at unnoticed

/-- What an operation waits for comes nearer, unless it is the writing of a line. -/
theorem Lingers.patience {w : Wait} (lingers : x.Lingers y) (tended : x.Tended c m₀)
    (waits : x.Waits) (wait : x.queue.manager.stage.wait? = some w) (other : w ≠ .write) :
  y.patience < x.patience
  := by
  obtain ⟨kills, run, -⟩ := tended.run
  obtain ⟨l, w', -, wait', guard⟩ := run.sound.guard waits
  obtain rfl := Option.some.inj (wait.symm.trans wait')
  cases lingers with
  | told noticed => exact patience_tell noticed
  | passed still early =>
      cases guard with
      | timed _ _ deadline => exact patience_pass deadline early
      | killed => exact absurd still (tended.stirs_of_reaping waits wait)
      | choked => exact absurd rfl other
  | last still untimed =>
      cases guard with
      | timed _ _ deadline => cases untimed.symm.trans deadline
      | killed => exact absurd still (tended.stirs_of_reaping waits wait)
      | choked => exact absurd rfl other

/-! ### Lines that choke -/

/-- From some step on, an operation stays suspended, if nobody sees the end. -/
theorem Tended.settles (tended : x.Tended c m₀) (endless : x.goOn = none) :
  ∃ n, ∀ k, n ≤ k → (x.steps k).Waits ∧ (x.steps k).Lingers (x.steps (k + 1))
  := by
  have weighs (k : Nat) : (x.steps (k + 1)).weight < (x.steps k).weight
      ∨ (x.steps k).Waits ∧ (x.steps k).Lingers (x.steps (k + 1)) := by
    obtain ⟨kills, run, -⟩ := (tended.steps k).run
    rw [steps_add]
    rcases run.sound.weighs with less | lingers | ⟨last, free⟩
    · exact .inl less
    · exact .inr lingers
    · cases endless.symm.trans (goOn_eq_some_iff.mpr ⟨k, rfl, last, free⟩)
  have falls (k : Nat) : (x.steps (k + 1)).weight ≤ (x.steps k).weight := by
    rcases weighs k with less | ⟨-, lingers⟩
    · exact le_of_lt less
    · exact le_of_eq lingers.weight
  obtain ⟨n, still⟩ := exists_still (f := fun k => (x.steps k).weight) falls
  exact ⟨n, fun k late => (weighs k).resolve_left (still k late)⟩

end Hosted

end Session

end NotebookEngine
