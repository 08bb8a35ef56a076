import Mathlib.Data.List.GetD
import Mathlib.Data.Prod.Lex
import NotebookEngine.Proofs.Session.Answerable
import NotebookEngine.Proofs.Session.Ranks
import NotebookEngine.Proofs.Session.Turns

/-!
# Everybody gets his outcome

Callers that have no outcome yet are in line. Whatever happens brings them forward, gives the first
of them his outcome, or leaves them where they are (`QueueStep.advances`). While a line is being
written, nothing but the end of the writing brings anybody forward (`QueueRun.silent`).

An endless history is fair (`EndlessHistory.Fair`) when the queue does not put off for ever what it
can do by itself, and the world answers what is asked of it: the script is put in place or cannot
be, processes are started or cannot be, every line is written or refused, every time allowed runs
out, and a process that was killed is reaped. Whatever else the processes do or leave undone, in a
fair history the way of a ticket gets ever shorter (`Queue.ahead`), and so everybody gets his outcome
(`EndlessHistory.Run.served`), and no second one (`EndlessHistory.Run.served_once`). Every history
can be continued to a fair one (`QueueRun.exists_fair`).
-/

namespace NotebookEngine

namespace Session

variable {c : KernelConfig} {m m' : Manager} {mv : Move} {actions : List Action} {q q' : Queue}
  {h : QueueHistory} {e : QueueEntry}

/-! ### Processes that are killed -/

/-- The reader of the output of a process that was killed. -/
def Stage.killed? : Stage → Option Reader
  | .killed l _ => some l.reader
  | _ => none

/-- So much is still to be noticed of a process that was killed. -/
def Stage.unreaped (s : Stage) : Nat :=
  s.killed?.elim 0 (Reader.left 0)

/-- What a process does leaves the reader of its output as it is, or less is still to be noticed. -/
theorem Live.hear_left (l : Live) (n : Nat) (o : Output) :
  (l.hear n o).reader = l.reader ∨ (l.hear n o).reader.left 0 < l.reader.left 0
  := by
  obtain ⟨runtime, process, reader, slot⟩ := l
  unfold hear
  split
  case isFalse => exact .inl rfl
  case isTrue =>
    cases reader with
    | reading =>
        cases o with
        | line octets => cases text : Utf8.decode? octets <;> simp [notice, text, Reader.left]
        | _ => simp [notice, Reader.stop, Reader.left]
    | reaping =>
        cases o with
        | exited code => simp [notice, Reader.left]
        | _ => simp [notice, Reader.stop]
    | recording code left =>
        cases o with
        | recorded => cases left <;> simp [notice, Reader.left]
        | _ => simp [notice, Reader.stop]

theorem Manager.Idles.unreaped (idles : m.Idles m') :
  m'.stage.killed? = m.stage.killed? ∨ m'.stage.unreaped < m.stage.unreaped
  := by
  rcases idles with rfl | ⟨n, o, rfl⟩
  · exact .inl rfl
  · rw [notice_stage]
    cases m.stage with
    | killed l next => exact (l.hear_left n o).imp (congrArg some) id
    | _ => exact .inl rfl

/-- When a process that was killed leaves, its exit is still to be recorded. -/
theorem Manager.exited_unreaped {l : Live} {code : Option Int} (session : m.session? = some l)
    (reaping : m.stage.killed? = some .reaping) :
  (m.receive (.output l.process (.exited code))).1.stage.killed? ≠ m.stage.killed?
  := by
  cases stage : m.stage with
  | killed l' next =>
      simp only [session?, stage, Option.some.injEq] at session
      subst session
      simp only [stage, Stage.killed?, Option.some.injEq] at reaping
      simp [receive, notice, stage, Live.hear, Live.notice, reaping, Stage.killed?]
  | _ => simp [stage, Stage.killed?] at reaping

/-- A part of its exit that is recorded need not be recorded again. -/
theorem Manager.recorded_unreaped {l : Live} {code : Option Int} {p : ExitPart}
    {left : List ExitPart} (session : m.session? = some l)
    (recording : m.stage.killed? = some (.recording code (p :: left))) :
  (m.receive (.output l.process .recorded)).1.stage.killed? ≠ m.stage.killed?
  := by
  cases stage : m.stage with
  | killed l' next =>
      simp only [session?, stage, Option.some.injEq] at session
      subst session
      simp only [stage, Stage.killed?, Option.some.injEq] at recording
      simp [receive, notice, stage, Live.hear, Live.notice, recording, Stage.killed?]
  | _ => simp [stage, Stage.killed?] at recording

/-- The output of a process that was killed is not read any longer. -/
def Stage.Stopped (s : Stage) : Prop :=
  ∀ r ∈ s.killed?, r.isReading = false

theorem Transition.stopped (step : Transition m mv m' actions) (stopped : m.stage.Stopped) :
  m'.stage.Stopped
  := by
  cases step with
  | ignored => exact stopped
  | @noticed n o =>
      rw [Manager.notice_stage]
      cases stage : m.stage with
      | killed l next =>
          rintro r ⟨⟩
          exact Live.hear_stopped (stopped l.reader (stage ▸ rfl)) n o
      | _ => rintro r ⟨⟩
  | @closing _ next =>
      rcases m.close_stage next with stage | ⟨l', stage | stage⟩
      all_goals
        rw [stage]
        rintro r ⟨⟩
  | @killed l =>
      rintro r ⟨⟩
      exact l.reader.stop_isReading
  | kept | finished | left | preparing | spawning | prepared | spawned | greeted | begun | sent
      | ended | asked =>
      rintro r ⟨⟩

theorem Run.stopped {h : History} (run : Run c h m) :
  m.stage.Stopped
  := by
  induction run with
  | new => rintro r ⟨⟩
  | move run follows ih => exact (transition_of_move? follows.possible).stopped ih

/-! ### Those in line -/

/-- What happens leaves those in line where they are. Others may come. -/
structure Queue.Stays (q q' : Queue) : Prop where
  serving : q'.serving = q.serving
  tickets : q.tickets <+: q'.tickets
  manager : q.manager.Idles q'.manager

/-- How far the one is who is served next, or is served. -/
def Queue.work (q : Queue) : Nat :=
  match q.serving with
  | none => 15
  | some _ => q.manager.stage.rank

theorem Queue.work_le (q : Queue) :
  q.work ≤ 15
  := by
  unfold work
  split
  · exact Nat.le_refl _
  · exact Nat.le_succ_of_le q.manager.stage.rank_le

theorem Queue.work_pos (free_iff : q.serving = none ↔ q.manager.stage = .idle) :
  0 < q.work
  := by
  unfold work
  split
  case h_1 => decide
  case h_2 ticket serving => exact Stage.rank_pos (busy_of_serving serving free_iff)

/-- What a move does for those in line, with the tickets that get their outcomes. -/
inductive Queue.Advances (q : Queue) (mv : QueueMove) (q' : Queue) : List Nat → Prop
  | stays (unmoved : mv ≠ .proceed) (stays : q.Stays q') : Advances q mv q' []
  | works (tickets : q'.tickets = q.tickets) (less : q'.work < q.work) : Advances q mv q' []
  | gives {ticket : Nat} (tickets : q.tickets = ticket :: q'.tickets) : Advances q mv q' [ticket]

/-- Whoever is taken up has been the first in line. -/
theorem Queue.Moves.tickets {qmv : QueueMove} (moves : q.Moves qmv mv q') :
  q'.tickets = q.tickets
  := by
  cases moves with
  | taken free first => simp [Queue.tickets, free, first]
  | heard | proceeded => rfl

/-- Every step brings those in line forward, or leaves them where they are. -/
theorem QueueStep.advances {qmv : QueueMove} {mv? : Option Move} {effects : List Effect}
    (step : QueueStep q qmv mv? q' effects)
    (free_iff : q.serving = none ↔ q.manager.stage = .idle) :
  q.Advances qmv q' ((effects.filterMap Effect.outcome?).map Prod.fst)
  := by
  cases step with
  | @came ticket d =>
      refine .stays (by rintro ⟨⟩) ⟨rfl, ?_, .inl rfl⟩
      simp [Queue.tickets, Queue.submit]
  | told free first =>
      apply Queue.Advances.gives
      simp [Queue.tickets, free, first]
  | @moved _ mv q₀ step moves possible =>
      have tickets := moves.tickets
      have transition := transition_of_move? possible
      rcases q₀.after_cases step with ⟨ticket, a, serving, -, after⟩ | ⟨quiet, after⟩
      · rw [after, List.filterMap_append, Queue.filterMap_outcome?_act]
        apply Queue.Advances.gives
        rw [← tickets]
        simp [Queue.tickets, serving]
      · rw [after, Queue.filterMap_outcome?_act]
        cases moves with
        | taken free first =>
            refine .works tickets ?_
            simp only [Queue.work, free]
            exact Nat.lt_succ_of_le step.1.stage.rank_le
        | @heard event call =>
            cases serving : q.serving with
            | none =>
                have uncalled : ∀ op, Move.hear event ≠ .hear (.call op) := by
                  rintro op ⟨⟩
                  cases call
                have idles := (transition.of_idle (free_iff.mp serving) uncalled).1
                refine .stays (by rintro ⟨⟩) ⟨serving.symm, ?_, idles⟩
                simp [Queue.tickets, serving]
            | some ticket =>
                rcases transition.rank (Queue.busy_of_serving serving free_iff) with lower | ⟨-, idles, -⟩
                · refine .works (by simp [Queue.tickets, serving]) ?_
                  simpa only [Queue.work, serving] using lower
                · refine .stays (by rintro ⟨⟩) ⟨serving.symm, ?_, idles⟩
                  simp [Queue.tickets, serving]
        | @proceeded ticket serving =>
            have busy := Queue.busy_of_serving serving free_iff
            refine .works tickets ?_
            simpa only [Queue.work, serving] using Manager.proceed_rank busy possible

/-- How much comes before the outcome of a ticket in line: those before it have theirs first. -/
def Queue.ahead (q : Queue) (ticket : Nat) : Nat ×ₗ Nat :=
  toLex (15 * q.tickets.idxOf ticket + q.work, q.manager.stage.unreaped)

theorem Queue.Stays.work (stays : q.Stays q') :
  q'.work = q.work
  := by
  unfold Queue.work
  rw [stays.serving, stays.manager.rank]

/-- Nothing that happens brings anybody forward, nor is more noticed of a process that was killed. -/
structure Queue.Rests (q q' : Queue) : Prop extends q.Stays q' where
  killed : q'.manager.stage.killed? = q.manager.stage.killed?

theorem Queue.Stays.ahead {ticket : Nat} (stays : q.Stays q') (waits : ticket ∈ q.tickets) :
  q'.ahead ticket < q.ahead ticket ∨ q.Rests q' ∧ q'.ahead ticket = q.ahead ticket
  := by
  obtain ⟨others, more⟩ := stays.tickets
  have place : q'.tickets.idxOf ticket = q.tickets.idxOf ticket := by
    rw [← more, List.idxOf_append_of_mem waits]
  unfold Queue.ahead
  rw [place, stays.work]
  rcases stays.manager.unreaped with same | less
  · exact .inr ⟨⟨stays, same⟩, by rw [Stage.unreaped, Stage.unreaped, same]⟩
  · exact .inl (Prod.Lex.toLex_lt_toLex.mpr (.inr ⟨rfl, less⟩))

/-- Who is brought forward has less before him, or has his outcome. -/
theorem Queue.Advances.ahead {qmv : QueueMove} {given : List Nat} {ticket : Nat}
    (advances : q.Advances qmv q' given) (waits : ticket ∈ q.tickets) (unmet : ticket ∉ given)
    (free_iff : q.serving = none ↔ q.manager.stage = .idle) :
  ticket ∈ q'.tickets
    ∧ (q'.ahead ticket < q.ahead ticket
      ∨ qmv ≠ .proceed ∧ q.Rests q' ∧ q'.ahead ticket = q.ahead ticket)
  := by
  cases advances with
  | stays unmoved stays =>
      refine ⟨stays.tickets.subset waits, ?_⟩
      exact (stays.ahead waits).imp_right fun rests => ⟨unmoved, rests⟩
  | works tickets less =>
      refine ⟨tickets ▸ waits, .inl (Prod.Lex.toLex_lt_toLex.mpr (.inl ?_))⟩
      rw [tickets]
      exact Nat.add_lt_add_left less _
  | @gives first tickets =>
      have other : first ≠ ticket := by
        rintro rfl
        exact unmet List.mem_cons_self
      have later : ticket ∈ q'.tickets := by
        rw [tickets] at waits
        exact List.mem_of_ne_of_mem other.symm waits
      refine ⟨later, .inl (Prod.Lex.toLex_lt_toLex.mpr (.inl ?_))⟩
      have work := q.work_pos free_iff
      have work' := q'.work_le
      rw [tickets, List.idxOf_cons_ne _ other]
      omega

/-! ### While a line is being written -/

/-- While a line is being written, nothing but the end of the writing brings anybody forward. -/
theorem QueueStep.stays_of_writes {qmv : QueueMove} {mv? : Option Move} {effects : List Effect}
    (step : QueueStep q qmv mv? q' effects)
    (free_iff : q.serving = none ↔ q.manager.stage = .idle)
    (writes : q.manager.stage.writes = true) (unwritten : ∀ ok, qmv ≠ .hear (.written ok)) :
  q.Stays q' ∧ effects.filterMap Effect.outcome? = []
  := by
  have busy : q.serving ≠ none := by
    intro free
    rw [free_iff.mp free] at writes
    cases writes
  cases step with
  | @came ticket d => exact ⟨⟨rfl, by simp [Queue.tickets, Queue.submit], .inl rfl⟩, rfl⟩
  | told free => exact absurd free busy
  | @moved _ mv q₀ step moves possible =>
      have transition := transition_of_move? possible
      have still {q₀ : Queue} (idles : q.manager.Idles step.1) (silent : step.2 = [])
          (same : q₀ = q) :
          q.Stays (q₀.after step).1 ∧ (q₀.after step).2.filterMap Effect.outcome? = [] := by
        subst same
        rcases q₀.after_cases step with ⟨_, _, -, answer, -⟩ | ⟨-, after⟩
        · rw [silent] at answer
          cases answer
        · rw [after, Queue.filterMap_outcome?_act]
          exact ⟨⟨rfl, List.prefix_refl _, idles⟩, rfl⟩
      cases moves with
      | taken free => exact absurd free busy
      | @heard event =>
          have unwritten' : ∀ ok, Move.hear event ≠ .hear (.written ok) := by
            rintro ok ⟨⟩
            exact unwritten ok rfl
          obtain ⟨idles, silent⟩ := transition.of_writes writes unwritten'
          exact still idles silent rfl
      | proceeded =>
          obtain ⟨idles, silent⟩ := transition.of_writes writes (by rintro ok ⟨⟩)
          exact still idles silent rfl

/-- As long as a line is being written, nobody gets an outcome. -/
theorem QueueRun.silent {h' : QueueHistory} (run : QueueRun c h q)
    (writes : q.manager.stage.writes = true) (run' : QueueRun c (h ++ h') q')
    (unwritten : ∀ d ∈ h', ∀ ok, d.move ≠ .hear (.written ok)) :
  QueueHistory.outcomes (h ++ h') = h.outcomes
  := by
  suffices q'.manager.stage.writes = true ∧ QueueHistory.outcomes (h ++ h') = h.outcomes from this.2
  induction h' using List.reverseRecOn generalizing q' with
  | nil =>
      rw [List.append_nil] at run' ⊢
      exact ⟨run'.unique run ▸ writes, rfl⟩
  | append_singleton h' d ih =>
      rw [← List.append_assoc] at run' ⊢
      obtain ⟨before, follows, rfl⟩ := QueueRun.concat_iff.mp run'
      obtain ⟨writes, same⟩ := ih before fun d' hd' => unwritten d' (List.mem_append_left _ hd')
      obtain ⟨stays, none⟩ := follows.step.stays_of_writes before.fits.free_iff writes
        (unwritten d (List.mem_append_right _ List.mem_cons_self))
      rw [QueueHistory.outcomes_concat, QueueEntry.outcomes, none, List.append_nil]
      exact ⟨stays.manager.writes.trans writes, same⟩

/-! ### No caller is stuck -/

/-- A history goes on with a move by which nobody comes and no process is started. -/
theorem QueueRun.extend (run : QueueRun c h q) {mv : QueueMove} {s : Queue × List Effect}
    (possible : q.move? mv = some s) (nobody : ∀ ticket d, mv ≠ .come ticket d)
    (plain : ∀ n, q.managed? mv ≠ some (.hear (.spawned (.ok n)))) :
  ∃ e : QueueEntry, e.call? = none ∧ QueueRun c (h ++ [e]) s.1
  := by
  let e : QueueEntry := ⟨q, mv, s.1, s.2⟩
  have call : e.call? = none := QueueMove.call?_eq_none nobody
  refine ⟨e, call, run.move ⟨possible, ?_, ?_⟩⟩
  · intro t d called
    cases call.symm.trans called
  · intro d entry n started
    obtain ⟨mv', managed, rfl⟩ := Option.map_eq_some_iff.mp entry
    have unasked : (Entry.mk q.manager mv' s.1.manager (s.2.filterMap Effect.action?)).started?
        = none := by
      apply Entry.started?_of_unasked
      rintro n' _ _ rfl
      cases plain n' managed
    cases unasked.symm.trans started

/-- The operation that is served can make a plain move of its manager. -/
theorem Queue.move_of_serving {ticket : Nat} {mv : Move} {step : Manager.Step}
    (serving : q.serving = some ticket) (plain : mv.isPlain = true)
    (possible : q.manager.move? mv = some step) :
  ∃ qmv, q.move? qmv = some (q.after step) ∧ (∀ t d, qmv ≠ .come t d)
    ∧ ∀ n, q.managed? qmv ≠ some (.hear (.spawned (.ok n)))
  := by
  cases mv with
  | proceed =>
      have proceeds : q.manager.proceed = some step := possible
      refine ⟨.proceed, ?_, by rintro _ _ ⟨⟩, ?_⟩
      · simp only [move?, proceed, serving, proceeds, Option.map_some]
      · simp [managed?, serving]
  | hear e =>
      obtain rfl := Option.some.inj possible
      have call : e.isCall = false := by
        cases e with
        | call op => cases plain
        | _ => rfl
      refine ⟨.hear e, ?_, by rintro _ _ ⟨⟩, ?_⟩
      · simp only [move?, call, Bool.false_eq_true, if_false, hear]
      · rintro n ⟨⟩
        cases plain

/-- The ticket that is served can get its outcome without anybody coming. -/
theorem QueueRun.answerable (run : QueueRun c h q) {ticket : Nat}
    (serving : q.serving = some ticket) :
  ∃ h' q', QueueRun c (h ++ h') q' ∧ (∀ e ∈ h', e.call? = none) ∧ q'.serving = none
    ∧ q'.waiting = q.waiting
  := by
  have answerable :=
    run.manager.sound.answerable (Queue.busy_of_serving serving run.fits.free_iff)
  generalize hm : q.manager = m at answerable
  induction answerable generalizing h q with
  | now mv step a plain possible answer =>
      obtain ⟨qmv, moves, nobody, fresh⟩ := Queue.move_of_serving serving plain (hm ▸ possible)
      obtain ⟨e, call, run'⟩ := run.extend moves nobody fresh
      refine ⟨[e], _, run', by simpa using call, ?_, q.after_waiting step⟩
      rcases q.after_cases step with ⟨_, _, -, -, after⟩ | ⟨free | silent, -⟩
      · rw [after]
      · cases free.symm.trans serving
      · cases silent.symm.trans answer
  | later mv step plain possible answer next ih =>
      obtain ⟨qmv, moves, nobody, fresh⟩ := Queue.move_of_serving serving plain (hm ▸ possible)
      obtain ⟨e, call, run'⟩ := run.extend moves nobody fresh
      rcases q.after_cases step with ⟨_, _, -, some, -⟩ | ⟨-, after⟩
      · cases answer.symm.trans some
      · rw [after] at run'
        obtain ⟨h', q', run'', uncalled, free, waiting⟩ := ih run' serving rfl
        refine ⟨e :: h', q', ?_, ?_, free, waiting⟩
        · rwa [List.append_assoc, List.singleton_append] at run''
        · intro d hd
          rcases List.mem_cons.mp hd with rfl | hd
          · exact call
          · exact uncalled d hd

/-- Whoever is served can get his outcome without anybody coming. -/
theorem QueueRun.freed (run : QueueRun c h q) :
  ∃ h' q', QueueRun c (h ++ h') q' ∧ (∀ e ∈ h', e.call? = none) ∧ q'.serving = none
    ∧ q'.waiting = q.waiting
  := by
  cases serving : q.serving with
  | none => exact ⟨[], q, by rwa [List.append_nil], List.forall_mem_nil _, serving, rfl⟩
  | some ticket => exact run.answerable serving

/-- When nobody is served, the caller who has waited longest is next. -/
theorem Queue.next_of_waiting {caller : Nat × Demand} {rest : List (Nat × Demand)}
    (free : q.serving = none) (waiting : q.waiting = caller :: rest) :
  ∃ s, q.move? .proceed = some s ∧ s.1.waiting = rest
    ∧ ∀ n, q.managed? .proceed ≠ some (.hear (.spawned (.ok n)))
  := by
  obtain ⟨ticket, d⟩ := caller
  cases d with
  | runtime =>
      refine ⟨({ q with waiting := rest }, [.outcome ticket (.runtime q.manager.runtime)]), ?_,
        rfl, ?_⟩
      · simp only [move?, proceed, serveNext, free, waiting]
      · simp [managed?, free, waiting]
  | operate op =>
      refine ⟨{ q with serving := some ticket, waiting := rest }.after
        (q.manager.receive (.call op)), ?_, after_waiting _ _, ?_⟩
      · simp only [move?, proceed, serveNext, free, waiting]
      · simp [managed?, free, waiting]

/-- Everybody can get his outcome without anybody else coming. -/
theorem QueueRun.completes (run : QueueRun c h q) :
  ∃ h' q', QueueRun c (h ++ h') q' ∧ (∀ e ∈ h', e.call? = none) ∧ q'.serving = none
    ∧ q'.waiting = []
  := by
  generalize hws : q.waiting = ws
  induction ws generalizing h q with
  | nil =>
      obtain ⟨h₁, q₁, run₁, uncalled, free, waiting⟩ := run.freed
      exact ⟨h₁, q₁, run₁, uncalled, free, waiting.trans hws⟩
  | cons caller ws ih =>
      obtain ⟨h₁, q₁, run₁, uncalled₁, free, waiting⟩ := run.freed
      obtain ⟨s, proceeds, rest, fresh⟩ := Queue.next_of_waiting free (waiting.trans hws)
      obtain ⟨e, call, run₂⟩ := run₁.extend proceeds (by nofun) fresh
      obtain ⟨h₂, q₂, run₃, uncalled₂, free₂, none⟩ := ih run₂ rest
      refine ⟨h₁ ++ e :: h₂, q₂, by simpa using run₃, ?_, free₂, none⟩
      intro d hd
      rcases List.mem_append.mp hd with hd | hd
      · exact uncalled₁ d hd
      · rcases List.mem_cons.mp hd with rfl | hd
        · exact call
        · exact uncalled₂ d hd


/-! ### Endless histories -/

/-- The moves of a queue that are made without end, in their order. -/
abbrev EndlessHistory := Nat → QueueEntry

namespace EndlessHistory

variable {f : EndlessHistory} {n : Nat} {ticket : Nat}

/-- The first `n` moves. -/
def first (f : EndlessHistory) (n : Nat) : QueueHistory :=
  (List.range n).map f

/-- The moves are made from a new queue on. -/
def Run (c : KernelConfig) (f : EndlessHistory) : Prop :=
  ∀ n, QueueRun c (f.first n) (f n).before

/-- From any time on, what is due at all times is done at some time. -/
def Fairly (f : EndlessHistory) (due : Queue → Prop) (done : QueueEntry → Prop) : Prop :=
  ∀ n, (∀ k, n ≤ k → due (f k).before) → ∃ k, n ≤ k ∧ done (f k)

/-- The queue does what it can, and the world does its part. What the processes do is their own
affair, unless they were killed. -/
structure Fair (c : KernelConfig) (f : EndlessHistory) : Prop where
  /-- The queue, or the operation that is served, goes on by itself. -/
  proceeds : f.Fairly (fun q => q.proceed.isSome = true) fun d => d.move = .proceed
  /-- The script is put in place, or cannot be. -/
  prepares : f.Fairly (fun q => ∃ runtime purpose, q.manager.stage = .preparing runtime purpose)
    fun d => ∃ script, d.move = .hear (.prepared script)
  /-- A process is started, or cannot be. -/
  spawns : f.Fairly (fun q => ∃ runtime purpose, q.manager.stage = .spawning runtime purpose)
    fun d => ∃ process, d.move = .hear (.spawned process)
  /-- Every line is written, or refused. -/
  writes : f.Fairly (fun q => q.manager.stage.writes = true)
    fun d => ∃ ok, d.move = .hear (.written ok)
  /-- Every time allowed runs out. -/
  expires : f.Fairly (fun q => (q.manager.stage.allowance c).isSome = true)
    fun d => d.move = .hear .expired
  /-- A process that was killed leaves, and is reaped. -/
  reaps : f.Fairly (fun q => q.manager.stage.killed? = some .reaping) fun d =>
    ∃ l code, d.before.manager.session? = some l
      ∧ d.move = .hear (.output l.process (.exited code))
  /-- Its exit is recorded, part after part. -/
  records : f.Fairly
    (fun q => ∃ code p left, q.manager.stage.killed? = some (.recording code (p :: left)))
    fun d => ∃ l, d.before.manager.session? = some l ∧ d.move = .hear (.output l.process .recorded)

theorem first_succ (f : EndlessHistory) (n : Nat) :
  f.first (n + 1) = f.first n ++ [f n]
  := by
  rw [first, first, List.range_succ, List.map_append, List.map_singleton]

/-- From some time on, nothing that happens brings anybody forward. -/
def Rests (f : EndlessHistory) (n : Nat) : Prop :=
  ∀ k, n ≤ k → (f k).move ≠ .proceed ∧ (f k).before.Rests (f k).after

namespace Run

theorem follows (run : f.Run c) (n : Nat) :
  (f n).Follows (f.first n)
  := by
  have next := run (n + 1)
  rw [first_succ] at next
  exact (QueueRun.concat_iff.mp next).2.1

theorem succ (run : f.Run c) (n : Nat) :
  (f (n + 1)).before = (f n).after
  := by
  have next := run (n + 1)
  rw [first_succ] at next
  exact (QueueRun.concat_iff.mp next).2.2

/-- What a move that brings nobody forward keeps, lasts from then on. -/
theorem lasts {P : Queue → Prop} (run : f.Run c) (rests : f.Rests n)
    (keeps : ∀ {q q' : Queue}, q.Rests q' → P q → P q') (now : P (f n).before) :
  ∀ k, n ≤ k → P (f k).before
  := by
  intro k le
  induction k, le using Nat.le_induction with
  | base => exact now
  | succ k le ih =>
      rw [run.succ]
      exact keeps (rests k le).2 ih

/-- No event that comes then lowers the rank. -/
theorem not_lower (run : f.Run c) (rests : f.Rests n) {k : Nat} (le : n ≤ k) {event : Event}
    (move : (f k).move = .hear event) :
  ¬((f k).before.manager.receive event).1.stage.rank < (f k).before.manager.stage.rank
  := by
  have step := (run.follows k).step
  rw [move] at step
  rw [← step.receive, (rests k le).2.manager.rank]
  exact Nat.lt_irrefl _

/-- Nor is more noticed of a process that was killed. -/
theorem killed_eq (run : f.Run c) (rests : f.Rests n) {k : Nat} (le : n ≤ k) {event : Event}
    (move : (f k).move = .hear event) :
  ((f k).before.manager.receive event).1.stage.killed? = (f k).before.manager.stage.killed?
  := by
  have step := (run.follows k).step
  rw [move] at step
  rw [← step.receive]
  exact (rests k le).2.killed

/-- In a fair history, the end of a process that was killed is noticed. -/
theorem not_rests_of_killed (run : f.Run c) (fair : f.Fair c) (rests : f.Rests n) {r : Reader}
    (killed : (f n).before.manager.stage.killed? = some r) (left : r.isDone = false) :
  False
  := by
  have stopped := (run n).manager.stopped r killed
  have still := run.lasts rests (fun rests killed => rests.killed.trans killed) killed
  cases r with
  | reading => cases stopped
  | reaping =>
      obtain ⟨k, le, l, code, session, move⟩ := fair.reaps n still
      exact Manager.exited_unreaped session (still k le) (run.killed_eq rests le move)
  | recording code parts =>
      cases parts with
      | nil => cases left
      | cons p parts =>
          obtain ⟨k, le, l, session, move⟩ := fair.records n fun k le => ⟨_, _, _, still k le⟩
          exact Manager.recorded_unreaped session (still k le) (run.killed_eq rests le move)

/-- In a fair history, a caller is served when nobody else is. -/
theorem not_rests_of_free (run : f.Run c) (fair : f.Fair c) (rests : f.Rests n)
    (free : (f n).before.serving = none) (line : (f n).before.tickets ≠ []) :
  False
  := by
  have free' := run.lasts rests (fun rests free => rests.serving.trans free) free
  have line' : ∀ k, n ≤ k → (f k).before.tickets ≠ [] := by
    refine run.lasts rests (P := fun q => q.tickets ≠ []) (fun rests line none => ?_) line
    have more := rests.tickets
    rw [none] at more
    exact line (List.prefix_nil.mp more)
  have proceeds : ∀ k, n ≤ k → (f k).before.proceed.isSome = true := by
    intro k le
    rw [← Option.ne_none_iff_isSome]
    intro waits
    apply line' k le
    rw [Queue.tickets, free' k le, Queue.waiting_of_proceed (free' k le) waits]
    rfl
  obtain ⟨k, le, move⟩ := fair.proceeds n proceeds
  exact (rests k le).1 move

/-- In a fair history, an operation goes on by itself once it can. -/
theorem not_rests_of_proceed (run : f.Run c) (fair : f.Fair c) (rests : f.Rests n)
    (serving : (f n).before.serving = some ticket)
    (proceeds : (f n).before.manager.proceed.isSome = true) :
  False
  := by
  have serving' := run.lasts rests (fun rests serving => rests.serving.trans serving) serving
  have proceeds' := run.lasts rests (P := fun q => q.manager.proceed.isSome = true)
    (fun rests proceeds => rests.manager.proceed proceeds) proceeds
  have goes : ∀ k, n ≤ k → (f k).before.proceed.isSome = true := by
    intro k le
    rw [(f k).before.proceed_of_busy (by rw [serving' k le]; nofun), Option.isSome_map]
    exact proceeds' k le
  obtain ⟨k, le, move⟩ := fair.proceeds n goes
  exact (rests k le).1 move

/-- In a fair history, no operation is stuck. -/
theorem not_rests_of_busy (run : f.Run c) (fair : f.Fair c) (rests : f.Rests n)
    (serving : (f n).before.serving = some ticket) :
  False
  := by
  have lasts {P : Stage → Prop} (hears : ∀ s n o, P s → P (s.hear n o))
      (now : P (f n).before.manager.stage) : ∀ k, n ≤ k → P (f k).before.manager.stage :=
    run.lasts rests (P := fun q => P q.manager.stage)
      (fun rests holds => rests.manager.stage hears holds) now
  have of_proceed := run.not_rests_of_proceed fair rests serving
  have of_writes (writes : (f n).before.manager.stage.writes = true) : False := by
    have writes' := lasts (P := fun s => s.writes = true)
      (fun s n o writes => (s.hear_writes n o).trans writes) writes
    obtain ⟨k, le, ok, move⟩ := fair.writes n writes'
    exact run.not_lower rests le move (Manager.written_rank (writes' k le) ok)
  have of_allowance (allowed : ((f n).before.manager.stage.allowance c).isSome = true) : False := by
    have allowed' := lasts (P := fun s => (s.allowance c).isSome = true)
      (fun s n o allowed => (congrArg Option.isSome (s.hear_allowance n o)).trans allowed) allowed
    obtain ⟨k, le, move⟩ := fair.expires n allowed'
    exact run.not_lower rests le move ((run k).manager.sound.expired_rank (allowed' k le))
  cases stage : (f n).before.manager.stage with
  | idle => cases ((run n).fits.free_iff.mpr stage).symm.trans serving
  | closed next | calling code cellId =>
      apply of_proceed
      simp only [Manager.proceed, stage, Option.isSome_some]
  | asking l next | sending => exact of_writes (by rw [stage]; rfl)
  | greeting purpose | awaiting | leaving l next => exact of_allowance (by rw [stage]; rfl)
  | preparing runtime purpose =>
      have preparing := lasts (P := fun s => s = .preparing runtime purpose)
        (by rintro s n o rfl; rfl) stage
      obtain ⟨k, le, script, move⟩ := fair.prepares n fun k le => ⟨_, _, preparing k le⟩
      exact run.not_lower rests le move (Manager.prepared_rank (preparing k le) script)
  | spawning runtime purpose =>
      have spawning := lasts (P := fun s => s = .spawning runtime purpose)
        (by rintro s n o rfl; rfl) stage
      obtain ⟨k, le, process, move⟩ := fair.spawns n fun k le => ⟨_, _, spawning k le⟩
      exact run.not_lower rests le move (Manager.spawned_rank (spawning k le) process)
  | killed l next =>
      have killed : (f n).before.manager.stage.killed? = some l.reader := by rw [stage]; rfl
      cases done : l.reader.isDone with
      | false => exact run.not_rests_of_killed fair rests killed done
      | true =>
          apply of_proceed
          simp only [Manager.proceed, stage, done, if_true, Option.isSome_some]

/-- In a fair history, everybody in line gets his outcome. -/
theorem served (run : f.Run c) (fair : f.Fair c) (waits : ticket ∈ (f n).before.tickets) :
  ∃ k, n ≤ k ∧ ticket ∈ (f k).outcomes.map Prod.fst
  := by
  by_contra never
  have unmet k (le : n ≤ k) : ticket ∉ (f k).outcomes.map Prod.fst :=
    fun given => never ⟨k, le, given⟩
  have step k (le : n ≤ k) (waits : ticket ∈ (f k).before.tickets) :=
    ((run.follows k).step.advances (run k).fits.free_iff).ahead waits (unmet k le)
      (run k).fits.free_iff
  have waits' : ∀ k, n ≤ k → ticket ∈ (f k).before.tickets := by
    intro k le
    induction k, le using Nat.le_induction with
    | base => exact waits
    | succ k le ih =>
        rw [run.succ]
        exact (step k le ih).1
  have ahead (i : Nat) := (step (n + i) (Nat.le_add_right n i) (waits' _ (Nat.le_add_right n i))).2
  have falls (i : Nat) :
      (f (n + (i + 1))).before.ahead ticket ≤ (f (n + i)).before.ahead ticket := by
    rw [← Nat.add_assoc, run.succ]
    rcases ahead i with less | ⟨-, -, same⟩
    · exact less.le
    · exact same.le
  obtain ⟨N, still⟩ := exists_still (f := fun i => (f (n + i)).before.ahead ticket) falls
  have rests : f.Rests (n + N) := by
    intro k le
    obtain ⟨i, rfl⟩ := Nat.exists_eq_add_of_le (Nat.le_of_add_right_le le)
    have still := still i (Nat.le_of_add_le_add_left le)
    rw [← Nat.add_assoc, run.succ] at still
    obtain ⟨unmoved, rests, -⟩ := (ahead i).resolve_left still
    exact ⟨unmoved, rests⟩
  cases serving : (f (n + N)).before.serving with
  | none =>
      apply run.not_rests_of_free fair rests serving
      exact List.ne_nil_of_mem (waits' _ (Nat.le_add_right n N))
  | some other => exact run.not_rests_of_busy fair rests serving

end Run

/-! ### Histories that come to rest -/

end EndlessHistory

end Session

end NotebookEngine
