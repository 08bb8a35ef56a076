import Mathlib.Order.OrderIsoNat
import NotebookEngine.Proofs.Session.Operations

/-!
# How far an operation is

Every stage has a rank (`Stage.rank`). While an operation is worked on, whatever happens lowers the
rank, or the manager at most takes notice of what a process does (`Transition.rank`). So an operation
is over when every stage has come to its end. A stage does when the operation goes on by itself, which
it can once it could (`Manager.Idles.proceed`), or by the event that belongs to it.
-/

namespace NotebookEngine

namespace Session

variable {c : KernelConfig} {m m' : Manager} {mv : Move} {actions : List Action}

/-! ### Stages -/

/-- A line is being written in the stage. -/
def Stage.writes : Stage → Bool
  | .asking _ _ | .sending => true
  | _ => false

/-- Time is allowed for these stages only. -/
theorem Stage.of_allowance {s : Stage} (allowed : (s.allowance c).isSome = true) :
  (∃ purpose, s = .greeting purpose) ∨ s = .awaiting ∨ ∃ l next, s = .leaving l next
  := by
  cases s with
  | greeting purpose => exact .inl ⟨purpose, rfl⟩
  | awaiting => exact .inr (.inl rfl)
  | leaving l next => exact .inr (.inr ⟨l, next, rfl⟩)
  | _ => cases allowed

/-- The stage after a process has done something. -/
def Stage.hear (n : Nat) (o : Output) : Stage → Stage
  | .asking l next => .asking (l.hear n o) next
  | .leaving l next => .leaving (l.hear n o) next
  | .killed l next => .killed (l.hear n o) next
  | s => s

theorem Manager.notice_stage (m : Manager) (n : Nat) (o : Output) :
  (m.notice n o).stage = m.stage.hear n o
  := by
  cases stage : m.stage <;> simp only [notice, stage, Stage.hear]

theorem Stage.hear_writes (s : Stage) (n : Nat) (o : Output) :
  (s.hear n o).writes = s.writes
  := by
  cases s <;> rfl

@[simp]
theorem Stage.hear_allowance (s : Stage) (n : Nat) (o : Output) :
  (s.hear n o).allowance c = s.allowance c
  := by
  cases s <;> rfl

/-- The lowest rank of a session that is being closed. -/
def Sequel.rank : Sequel → Nat
  | .answer _ => 4
  | .start _ _ => 11

/-- How far the answer is. -/
def Stage.rank : Stage → Nat
  | .idle => 0
  | .awaiting => 1
  | .sending => 2
  | .calling _ _ => 3
  | .greeting _ => 8
  | .spawning _ _ => 9
  | .preparing _ _ => 10
  | .closed next => next.rank
  | .killed _ next => next.rank + 1
  | .leaving _ next => next.rank + 2
  | .asking _ next => next.rank + 3

theorem Stage.rank_le (s : Stage) :
  s.rank ≤ 14
  := by
  have sequel (next : Sequel) : next.rank ≤ 11 := by cases next <;> simp [Sequel.rank]
  cases s with
  | closed next | killed _ next | leaving _ next | asking _ next =>
      have := sequel next
      simp only [rank]
      omega
  | _ => simp [rank]

theorem Stage.rank_pos {s : Stage} (busy : s ≠ .idle) :
  0 < s.rank
  := by
  have sequel (next : Sequel) : 0 < next.rank := by cases next <;> simp [Sequel.rank]
  cases s with
  | idle => exact absurd rfl busy
  | closed next => exact sequel next
  | _ => simp [rank]

@[simp]
theorem Stage.hear_rank (s : Stage) (n : Nat) (o : Output) :
  (s.hear n o).rank = s.rank
  := by
  cases s <;> rfl

namespace Manager

/-- When a session is closed for an answer, its stage comes before all those of its start. -/
theorem close_rank (m : Manager) (next : Sequel) :
  (m.close next).1.stage.rank ≤ next.rank + 3
  := by
  rcases m.close_stage next with stage | ⟨l, stage | stage⟩
  all_goals
    rw [stage]
    simp [Stage.rank]

/-- The manager at most takes notice of something that a process does. -/
def Idles (m m' : Manager) : Prop :=
  m' = m ∨ ∃ n o, m' = m.notice n o

namespace Idles

/-- What holds of a stage holds of the next one, if it does whatever a process does. -/
theorem stage {P : Stage → Prop} (hears : ∀ s n o, P s → P (s.hear n o)) (idles : m.Idles m')
    (holds : P m.stage) :
  P m'.stage
  := by
  rcases idles with rfl | ⟨n, o, rfl⟩
  · exact holds
  · rw [notice_stage]
    exact hears _ n o holds

theorem rank (idles : m.Idles m') :
  m'.stage.rank = m.stage.rank
  := by
  rcases idles with rfl | ⟨n, o, rfl⟩
  · rfl
  · rw [notice_stage, Stage.hear_rank]

theorem writes (idles : m.Idles m') :
  m'.stage.writes = m.stage.writes
  := by
  rcases idles with rfl | ⟨n, o, rfl⟩
  · rfl
  · rw [notice_stage, Stage.hear_writes]

end Idles

end Manager

/-- An exit that is recorded to its end stays so. -/
theorem Live.hear_isDone {l : Live} (done : l.reader.isDone = true) (n : Nat) (o : Output) :
  (l.hear n o).reader.isDone = true
  := by
  cases reader : l.reader with
  | reading | reaping =>
      rw [reader] at done
      cases done
  | recording code left =>
      cases left with
      | nil => rwa [hear_of_done reader n o]
      | cons p left =>
          rw [reader] at done
          cases done

/-- When the reading is stopped, lines do not count any longer. -/
theorem Reader.stop_isReading (r : Reader) :
  r.stop.isReading = false
  := by
  cases r <;> rfl

/-- A reading that has stopped does not begin again. -/
theorem Live.hear_stopped {l : Live} (stopped : l.reader.isReading = false) (n : Nat) (o : Output) :
  (l.hear n o).reader.isReading = false
  := by
  obtain ⟨runtime, process, reader, slot⟩ := l
  unfold hear
  split
  case isFalse => exact stopped
  case isTrue =>
    cases reader with
    | reading => cases stopped
    | reaping =>
        cases o with
        | line octets => cases Utf8.decode? octets <;> rfl
        | _ => rfl
    | recording code left =>
        cases o with
        | recorded => cases left <;> rfl
        | _ => rfl

/-- A session for which nobody waits any more to announce itself stays so. -/
theorem Live.hear_handshake_ne_waiting {l : Live} (past : l.slot.handshake ≠ .waiting) (n : Nat)
    (o : Output) :
  (l.hear n o).slot.handshake ≠ .waiting
  := by
  unfold hear
  split
  case isFalse => exact past
  case isTrue =>
    have heard := l.notice_handshake o
    generalize l.slot.handshake = k, (l.notice o).slot.handshake = k' at past heard ⊢
    cases heard with
    | same => exact past
    | greeted | dismissed => nofun

/-- What an operation does by itself once it can, it can do after whatever a process does. -/
theorem Manager.notice_proceed (m : Manager) (n : Nat) (o : Output)
    (proceeds : m.proceed.isSome = true) :
  (m.notice n o).proceed.isSome = true
  := by
  cases stage : m.stage with
  | closed | calling => simp only [notice, proceed, stage, Option.isSome_some]
  | leaving l next | killed l next =>
      have done : l.reader.isDone = true := by
        by_contra left
        simp [proceed, stage, left] at proceeds
      simp only [notice, proceed, stage, Live.hear_isDone done, if_true, Option.isSome_some]
  | greeting purpose =>
      cases live : m.live with
      | none => simp [proceed, stage, live] at proceeds
      | some l =>
          have past : l.slot.handshake ≠ .waiting := by
            intro waiting
            simp [proceed, stage, live, waiting] at proceeds
          have past' := Live.hear_handshake_ne_waiting past n o
          simp only [notice, proceed, stage, live, Option.map_some]
          cases handshake : (l.hear n o).slot.handshake with
          | waiting => exact absurd handshake past'
          | done | lost => rfl
  | awaiting =>
      cases live : m.live with
      | none => simp [proceed, stage, live] at proceeds
      | some l =>
          simp only [notice, proceed, stage, live, Option.map_some]
          have heard := l.hear_call n o
          cases call : l.slot.call with
          | pending | taken => simp [proceed, stage, live, call] at proceeds
          | none => rw [(l.hear_call_eq_none_iff n o).mpr call, Option.isSome_some]
          | answered reply =>
              rw [call] at heard
              rw [heard.eq_answered, Option.isSome_some]
  | _ => simp [proceed, stage] at proceeds

theorem Manager.Idles.proceed (idles : m.Idles m') (proceeds : m.proceed.isSome = true) :
  m'.proceed.isSome = true
  := by
  rcases idles with rfl | ⟨n, o, rfl⟩
  · exact proceeds
  · exact m.notice_proceed n o proceeds

/-! ### Ranks -/

/-- What never rises falls for the last time at some time. -/
theorem exists_still {α : Type} [PartialOrder α] [WellFoundedLT α] {f : Nat → α}
    (falls : ∀ n, f (n + 1) ≤ f n) :
  ∃ n, ∀ k, n ≤ k → ¬f (k + 1) < f k
  := by
  obtain ⟨n, same⟩ := WellFoundedLT.antitone_chain_condition (antitone_nat_of_succ_le falls)
  refine ⟨n, fun k late less => ?_⟩
  have before := same k late
  have after := same (k + 1) (Nat.le_succ_of_le late)
  exact absurd (after.symm.trans before) (ne_of_lt less)

/-- While an operation is worked on, a transition lowers the rank of its stage, or the manager hears
of something and at most takes notice of it. -/
theorem Transition.rank (step : Transition m mv m' actions) (busy : m.stage ≠ .idle) :
  m'.stage.rank < m.stage.rank ∨ (∃ e, mv = .hear e) ∧ m.Idles m' ∧ actions = []
  := by
  cases step with
  | ignored => exact .inr ⟨⟨_, rfl⟩, .inl rfl, rfl⟩
  | noticed => exact .inr ⟨⟨_, rfl⟩, .inr ⟨_, _, rfl⟩, rfl⟩
  | @closing _ next why =>
      left
      have closed := m.close_rank next
      cases why with
      | start idle | execute idle | restart idle | shutdown idle => exact absurd idle busy
      | lost _ stage | silent stage =>
          rw [stage]
          exact Nat.lt_of_le_of_lt closed (by simp [Stage.rank, Sequel.rank])
  | kept idle => exact absurd idle busy
  | finished => exact .inl (Stage.rank_pos busy)
  | left _ stage =>
      left
      rcases stage with stage | stage
      all_goals
        rw [stage]
        simp only [Stage.rank]
        omega
  | preparing _ stage | spawning _ stage | prepared stage | spawned stage | greeted _ stage
      | begun _ stage | sent stage | ended stage =>
      left
      simp [stage, Stage.rank, Sequel.rank]
  | asked stage | killed stage =>
      left
      rw [stage]
      simp only [Stage.rank]
      omega

/-- While nothing is worked on, nothing comes of what happens but a call. -/
theorem Transition.of_idle (step : Transition m mv m' actions) (idle : m.stage = .idle)
    (uncalled : ∀ op, mv ≠ .hear (.call op)) :
  m.Idles m' ∧ actions = []
  := by
  have other {s : Stage} (stage : m.stage = s) (busy : s ≠ .idle) : False :=
    busy (stage.symm.trans idle)
  cases step with
  | ignored => exact ⟨.inl rfl, rfl⟩
  | noticed => exact ⟨.inr ⟨_, _, rfl⟩, rfl⟩
  | closing why =>
      cases why with
      | lost _ stage | silent stage => cases other stage nofun
      | _ => cases uncalled _ rfl
  | kept => cases uncalled _ rfl
  | finished why =>
      cases why with
      | unknown => cases uncalled _ rfl
      | closed _ stage | unprepared stage | unspawned stage | greeted _ stage | absent _ stage
          | refused _ stage => cases other stage nofun
  | left _ stage => rcases stage with stage | stage <;> cases other stage nofun
  | preparing _ stage | spawning _ stage | prepared stage | spawned stage | greeted _ stage
      | begun _ stage | sent stage | ended stage | asked stage | killed stage =>
      cases other stage nofun

/-- While a line is being written, nothing else comes of what happens. -/
theorem Transition.of_writes (step : Transition m mv m' actions) (writes : m.stage.writes = true)
    (unwritten : ∀ ok, mv ≠ .hear (.written ok)) :
  m.Idles m' ∧ actions = []
  := by
  have other {s : Stage} (stage : m.stage = s) (still : s.writes = false) : False := by
    rw [stage, still] at writes
    cases writes
  cases step with
  | ignored => exact ⟨.inl rfl, rfl⟩
  | noticed => exact ⟨.inr ⟨_, _, rfl⟩, rfl⟩
  | closing why =>
      cases why with
      | start stage | execute stage | restart stage | shutdown stage | lost _ stage | silent stage =>
          cases other stage rfl
  | finished why =>
      cases why with
      | closed _ stage | unknown stage | unprepared stage | unspawned stage | greeted _ stage
          | absent _ stage | refused _ stage => cases other stage rfl
  | left _ stage => rcases stage with stage | stage <;> cases other stage rfl
  | sent | asked => cases unwritten _ rfl
  | kept stage | preparing _ stage | spawning _ stage | prepared stage | spawned stage
      | greeted _ stage | begun _ stage | ended stage | killed stage =>
      cases other stage rfl

namespace Manager

/-- What an operation does by itself lowers the rank. -/
theorem proceed_rank {s : Step} (busy : m.stage ≠ .idle) (proceeds : m.proceed = some s) :
  s.1.stage.rank < m.stage.rank
  := by
  have own : Move.IsOwn .proceed := .inl rfl
  rcases (transition_of_proceed own proceeds).rank busy with lower | ⟨⟨e, move⟩, -⟩
  · exact lower
  · cases move

/-- So does the script when it is put in place, or cannot be. -/
theorem prepared_rank {runtime : Text} {purpose : Purpose}
    (stage : m.stage = .preparing runtime purpose) (script : Except Host.Fault Text) :
  (m.receive (.prepared script)).1.stage.rank < m.stage.rank
  := by
  cases script <;> simp [receive, stage, spawn, finish, goDoing, Stage.rank]

/-- So does the process when it is started, or cannot be. -/
theorem spawned_rank {runtime : Text} {purpose : Purpose}
    (stage : m.stage = .spawning runtime purpose) (process : Except Host.Fault Nat) :
  (m.receive (.spawned process)).1.stage.rank < m.stage.rank
  := by
  cases process <;> simp [receive, stage, finish, goTo, goDoing, Stage.rank]

/-- So does the line when it is written, or cannot be. -/
theorem written_rank (writes : m.stage.writes = true) (ok : Bool) :
  (m.receive (.written ok)).1.stage.rank < m.stage.rank
  := by
  cases stage : m.stage <;> simp only [stage, Stage.writes, Bool.false_eq_true] at writes
  all_goals simp [receive, stage, goTo, goDoing, Stage.rank]

/-- So does the end of the time allowed. -/
theorem Sound.expired_rank (sound : m.Sound) (allowed : (m.stage.allowance c).isSome = true) :
  (m.receive .expired).1.stage.rank < m.stage.rank
  := by
  have busy : m.stage ≠ .idle := by
    intro idle
    rw [idle] at allowed
    cases allowed
  cases proceeds : m.proceed with
  | some s =>
      simp only [receive, proceeds, Option.getD_some]
      exact proceed_rank busy proceeds
  | none =>
      simp only [receive, proceeds, Option.getD_none]
      rcases Stage.of_allowance allowed with ⟨purpose, stage⟩ | stage | ⟨l, next, stage⟩
      · simp only [expire, stage]
        exact Nat.lt_of_le_of_lt (m.close_rank _) (by simp [Stage.rank, Sequel.rank])
      · obtain ⟨l, holds, -⟩ := sound.promises stage
        simp [expire, stage, holds.live, endCall, Manager.finish, goDoing, Stage.rank]
      · simp [expire, stage, goDoing, Stage.rank]

end Manager

end Session

end NotebookEngine
