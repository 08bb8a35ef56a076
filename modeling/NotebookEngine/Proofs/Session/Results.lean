import Mathlib.Data.List.Nodup
import NotebookEngine.Proofs.Backend.Results
import NotebookEngine.Proofs.Session.Serial
import NotebookEngine.Proofs.Session.Hosting

/-!
# What callers get of a session

While a call is under way, it is for the cell of the operation that is served, and a result that
has answered it is one of that cell, in normal shape (`Manager.CallsFor`). So every outcome suits
what its ticket has come for (`Outcome.Suits`): of callers that come at any time
(`QueueRun.suits`), and of a session on a machine, whatever the machine does (`Hosted.Pairs`).

A session on a machine loses no ticket (`Hosted.tickets`), so it is at rest when everybody who came
has his outcome (`Hosted.Pairs.rests`).
-/

namespace NotebookEngine

namespace Session

open Host (Machine)

variable {m m' : Manager} {mv : Move} {actions : List Action} {op : Option Operation}

/-! ### Calls and answers -/

/-- The call is for a cell, and a result that has answered it is one of that cell. -/
def Call.IsFor (cellId : Text) : Call → Prop
  | .pending id => id = cellId
  | .answered (.ok r) => r.IsOf cellId
  | _ => True

/-- A call stays for its cell, whatever its process does. -/
theorem Call.IsFor.heard {cellId : Text} {x? : Option CellResult} {k k' : Call}
    (isFor : k.IsFor cellId) (heard : k.Heard x? k') :
  k'.IsFor cellId
  := by
  cases heard with
  | same => exact isFor
  | @answered x =>
      constructor
      · rw [x.normalize_cellId]
        exact isFor
      · apply x.normal_normalize
  | taken | failed => trivial

/-- An operation may be answered so: only an execution is answered by a result, which is one of its
cell. -/
inductive Answer.Suits : Operation → Answer → Prop
  | done {op : Operation} (plain : ∀ code cellId runtime, op ≠ .execute code cellId runtime) :
    Suits op .done
  | failed {op : Operation} {e : EngineError} : Suits op (.failed e)
  | result {code cellId runtime : Text} {r : CellResult} (isOf : r.IsOf cellId) :
    Suits (.execute code cellId runtime) (.result r)

/-- Somebody who wants something of the session may get this. -/
inductive Outcome.Suits : Demand → Outcome → Prop
  | answer {op : Operation} {a : Answer} (suits : a.Suits op) : Suits (.operate op) (.answer a)
  | runtime {path : Option Text} : Suits .runtime (.runtime path)

/-! ### Moves of a manager -/

/-- A call that is under way is for the cell of the operation. -/
def Manager.CallsFor (m : Manager) (op : Option Operation) : Prop :=
  m.stage = .sending ∨ m.stage = .awaiting →
    ∀ code cellId runtime, op = some (.execute code cellId runtime) →
      ∀ l ∈ m.live, l.slot.call.IsFor cellId

theorem Manager.callsFor_of_stage (sending : m.stage ≠ .sending) (awaiting : m.stage ≠ .awaiting) :
  m.CallsFor op
  := by
  rintro (stage | stage)
  · cases sending stage
  · cases awaiting stage

/-- What a process does leaves a call for its cell. -/
theorem Manager.CallsFor.notice (callsFor : m.CallsFor op) (n : Nat) (o : Output) :
  (m.notice n o).CallsFor op
  := by
  intro stage code cellId runtime same l live
  have before : m.stage = .sending ∨ m.stage = .awaiting := by
    rw [m.notice_stage] at stage
    cases h : m.stage <;> simp_all [Stage.hear]
  have kept : (m.notice n o).live = m.live.map (·.hear n o) := by
    rcases before with h | h <;> simp only [Manager.notice, h]
  rw [kept] at live
  obtain ⟨l, held, rfl⟩ := Option.map_eq_some_iff.mp live
  apply (callsFor before code cellId runtime same l held).heard
  apply l.hear_call

/-- A transition leaves a call that is under way for the cell of the operation. -/
theorem Transition.callsFor (step : Transition m mv m' actions)
    (serves : m.stage.Serves m.runtime op) (callsFor : m.CallsFor op) :
  m'.CallsFor ((Entry.mk m mv m' actions).carry op)
  := by
  cases step with
  | @ignored e call =>
      have none : (Entry.mk m (.hear e) m []).call? = none :=
        Entry.call?_of_busy fun op move => call op (Move.hear.inj move)
      rwa [Entry.carry_of_no_answer rfl, none, Option.none_or]
  | noticed => apply callsFor.notice
  | @closing _ next =>
      rcases m.close_stage next with stage | ⟨l, stage | stage⟩
      all_goals
        apply Manager.callsFor_of_stage
        · rw [stage]
          nofun
        · rw [stage]
          nofun
  | begun own stage live exited =>
      rw [Entry.carry_of_no_answer rfl, Entry.call?_of_own own, Option.none_or]
      rw [stage] at serves
      obtain ⟨-, -, path, -, rfl⟩ := serves
      rintro - code cellId runtime ⟨⟩ l ⟨⟩
      rfl
  | sent stage =>
      intro _
      apply callsFor (.inl stage)
  | _ => apply Manager.callsFor_of_stage <;> nofun

/-- An operation that is over with no call to end is answered as it may be. -/
theorem Finishes.suits {a : Answer} (why : Finishes m mv a) (serves : m.stage.Serves m.runtime op) :
  ∃ o ∈ (Entry.mk m mv m' actions).call?.or op, a.Suits o
  := by
  cases why with
  | closed own stage =>
      rw [stage] at serves
      obtain ⟨o, ho, serves⟩ := serves
      rw [Entry.call?_of_own own, Option.none_or]
      use o, ho
      cases serves with
      | shutdown =>
          apply Answer.Suits.done
          rintro _ _ _ ⟨⟩
      | failed => apply Answer.Suits.failed
  | unknown stage => exact ⟨.restart, by simp [Entry.call?, stage], .failed⟩
  | unprepared stage | unspawned stage =>
      rw [stage] at serves
      obtain ⟨o, ho, -⟩ := serves
      exact ⟨o, ho, .failed⟩
  | greeted own stage =>
      rw [stage] at serves
      obtain ⟨path, -, o, ho, serves⟩ := serves
      rw [Entry.call?_of_own own, Option.none_or]
      use o, ho
      cases serves with
      | start | restart =>
          apply Answer.Suits.done
          rintro _ _ _ ⟨⟩
  | absent own stage | refused own stage =>
      rw [stage] at serves
      obtain ⟨-, -, path, -, same⟩ := serves
      rw [Entry.call?_of_own own, Option.none_or]
      exact ⟨_, same, .failed⟩

/-- A call that is over is answered with a result of its cell, or with a failure. -/
theorem Ends.suits {l : Live} {a : Answer} {code cellId runtime : Text} (why : Ends m l mv a)
    (isFor : l.slot.call.IsFor cellId) :
  a.Suits (.execute code cellId runtime)
  := by
  cases why with
  | @replied _ reply own call =>
      cases reply with
      | error e => apply Answer.Suits.failed
      | ok r =>
          rw [call] at isFor
          apply Answer.Suits.result isFor
  | dropped | expired => apply Answer.Suits.failed

/-- The answer of a transition suits the operation that it ends. -/
theorem Transition.suits (step : Transition m mv m' actions) {a : Answer}
    (answer : answerAmong? actions = some a) (serves : m.stage.Serves m.runtime op)
    (callsFor : m.CallsFor op) :
  ∃ o ∈ (Entry.mk m mv m' actions).call?.or op, a.Suits o
  := by
  cases step with
  | finished why =>
      obtain rfl := Option.some.inj answer
      apply why.suits serves
  | ended stage live why =>
      obtain rfl := Option.some.inj answer
      rw [stage] at serves
      obtain ⟨-, -, path, -, code, cellId, same⟩ := serves
      refine ⟨.execute code cellId path, ?_, ?_⟩
      · rw [Entry.call?_of_busy, Option.none_or]
        · apply same
        · intro op _ idle
          cases stage.symm.trans idle
      · apply why.suits (callsFor (.inr stage) code cellId path same _ live)
  | closing why => cases (m.close_answer _).symm.trans answer
  | killed =>
      split at answer <;> cases answer
  | _ => cases answer

/-! ### Steps of a queue -/

variable {c : KernelConfig} {q q' : Queue} {h : QueueHistory} {calls : List (Nat × Demand)}

/-- A queue fits those who have come, and a call that is under way is for the cell of the operation
that is served. -/
structure Queue.Pairs (q : Queue) (calls : List (Nat × Demand)) (op : Option Operation) : Prop where
  fits : q.Fits calls op
  callsFor : q.manager.CallsFor op

/-- A queue that serves nobody and before which nobody waits fits nobody. -/
theorem Queue.Pairs.forget (pairs : q.Pairs calls op) (free : q.serving = none)
    (nobody : q.waiting = []) :
  q.Pairs [] none
  := by
  have idle := pairs.fits.free_iff.mp free
  refine ⟨⟨pairs.fits.sound, ?_, ?_, ?_⟩, ?_⟩
  · rw [idle]
    rfl
  · rw [free]
    exact .free
  · rw [nobody]
    exact List.nil_subset _
  · apply Manager.callsFor_of_stage
    · rw [idle]
      nofun
    · rw [idle]
      nofun

/-- After a step, the queue still fits those who have come. -/
theorem QueueStep.pairs {mv : QueueMove} {mv? : Option Move} {effects : List Effect}
    (step : QueueStep q mv mv? q' effects) (pairs : q.Pairs calls op) :
  q'.Pairs (calls ++ mv.call?.toList) (q.carried op mv? q' effects)
  := by
  constructor
  · apply step.fits pairs.fits
  · cases step with
    | came => exact pairs.callsFor
    | told => exact pairs.callsFor
    | moved moves possible =>
        simp only [Queue.carried, Option.elim_some, Queue.after_manager, Queue.after_actions]
        apply (transition_of_move? possible).callsFor pairs.fits.serves pairs.callsFor

/-- Every outcome of a step suits what its ticket has come for. -/
theorem QueueStep.suits {mv : QueueMove} {mv? : Option Move} {effects : List Effect}
    (step : QueueStep q mv mv? q' effects) (pairs : q.Pairs calls op) {ticket : Nat} {o : Outcome}
    (given : (ticket, o) ∈ effects.filterMap Effect.outcome?) :
  ∃ d, (ticket, d) ∈ calls ∧ o.Suits d
  := by
  obtain ⟨⟨sound, serves, turn, waiting⟩, callsFor⟩ := pairs
  cases step with
  | came => cases given
  | told free first =>
      obtain ⟨rfl, rfl⟩ := Prod.mk.inj (List.mem_singleton.mp given)
      refine ⟨.runtime, waiting ?_, .runtime⟩
      rw [first]
      apply List.mem_cons_self
  | @moved _ mv q₀ step moves possible =>
      have transition := transition_of_move? possible
      rcases q₀.after_cases step with ⟨ticket', a, serving, answer, after⟩ | ⟨-, after⟩
      · rw [after, List.filterMap_append, Queue.filterMap_outcome?_act] at given
        obtain ⟨rfl, rfl⟩ := Prod.mk.inj (List.mem_singleton.mp given)
        obtain ⟨o, served, suits⟩ := transition.suits answer serves callsFor
        have turn := moves.turn turn waiting serves.eq_none_iff.mp step
        rw [serving, served] at turn
        cases turn with
        | served came => exact ⟨_, came, .answer suits⟩
      · rw [after, Queue.filterMap_outcome?_act] at given
        cases given

/-- A step gives one outcome to every ticket that was served or waited and does so no longer. -/
theorem QueueStep.tickets {mv : QueueMove} {mv? : Option Move} {effects : List Effect}
    (step : QueueStep q mv mv? q' effects) :
  (effects.filterMap Effect.outcome?).map Prod.fst ++ q'.serving.toList
      ++ q'.waiting.map Prod.fst
    = q.serving.toList ++ q.waiting.map Prod.fst ++ mv.call?.toList.map Prod.fst
  := by
  cases step with
  | came => simp [Queue.submit, QueueMove.call?]
  | told free first => simp [Effect.outcome?, QueueMove.call?, free, first]
  | moved moves possible =>
      rw [Queue.after_tickets, Queue.after_waiting]
      cases moves with
      | taken free first => simp [QueueMove.call?, free, first]
      | heard | proceeded => simp [QueueMove.call?]

/-! ### Callers that come at any time -/

/-- In a run, the queue fits those who have come. -/
theorem QueueRun.pairs (run : QueueRun c h q) :
  q.Pairs h.calls h.entries.operation?
  := by
  induction run with
  | new =>
      refine ⟨QueueRun.new.fits, ?_⟩
      apply Manager.callsFor_of_stage <;> nofun
  | @move h e run follows ih =>
      refine ⟨(run.move follows).fits, ?_⟩
      have pairs := (follows.step.pairs ih).callsFor
      rw [QueueHistory.entries_concat, QueueEntry.managed?]
      generalize e.before.managed? e.move = mv? at pairs ⊢
      cases mv? with
      | none =>
          rw [Option.map_none, Option.toList_none, List.append_nil]
          exact pairs
      | some mv =>
          rw [Option.map_some, Option.toList_some, History.operation?_concat]
          exact pairs

/-- Every outcome suits what its ticket has come for. -/
theorem QueueRun.suits (run : QueueRun c h q) {ticket : Nat} {o : Outcome}
    (given : (ticket, o) ∈ h.outcomes) :
  ∃ d, (ticket, d) ∈ h.calls ∧ o.Suits d
  := by
  induction run with
  | new => cases given
  | @move h e run follows ih =>
      rw [QueueHistory.outcomes_concat, List.mem_append] at given
      rw [QueueHistory.calls_concat]
      have suits : ∃ d, (ticket, d) ∈ h.calls ∧ o.Suits d := by
        rcases given with given | given
        · apply ih given
        · apply follows.step.suits run.pairs given
      obtain ⟨d, came, suits⟩ := suits
      exact ⟨d, List.mem_append_left _ came, suits⟩

/-! ### A session on a machine -/

namespace Hosted

variable {x y : Hosted}

/-- The outcomes that are still to be told. -/
def untold (x : Hosted) : List (Nat × Outcome) :=
  x.pending.filterMap Effect.outcome?

/-- The tickets that have an outcome, are served or wait. -/
def tickets (x : Hosted) : List Nat :=
  (x.outcomes ++ x.untold).map Prod.fst ++ x.queue.serving.toList
    ++ x.queue.waiting.map Prod.fst

/-- Nobody is served, nobody waits, and nobody is still to be told. -/
structure Rests (x : Hosted) : Prop where
  free : x.queue.serving = none
  nobody : x.queue.waiting = []
  told : x.untold = []

/-- The session serves those who have come: no ticket is lost, and every outcome suits what its
ticket has come for. -/
structure Pairs (x : Hosted) (calls : List (Nat × Demand)) : Prop where
  queue : ∃ op, x.queue.Pairs calls op
  tickets : x.tickets = calls.map Prod.fst
  suits : ∀ ticket o, (ticket, o) ∈ x.outcomes ++ x.untold →
    ∃ d, (ticket, d) ∈ calls ∧ o.Suits d

/-- A session is at rest when everybody who came has his outcome. -/
theorem Pairs.rests (pairs : x.Pairs calls) (all : x.outcomes.length = calls.length) :
  x.Rests
  := by
  have same := congrArg List.length pairs.tickets
  simp only [Hosted.tickets, List.map_append, List.length_append, List.length_map, all] at same
  refine ⟨?_, ?_, ?_⟩
  · cases serving : x.queue.serving with
    | none => rfl
    | some ticket =>
        rw [serving, Option.toList_some, List.length_singleton] at same
        omega
  · apply List.eq_nil_of_length_eq_zero
    omega
  · apply List.eq_nil_of_length_eq_zero
    omega

/-- At rest, those who came may be forgotten, and what they got. -/
theorem Pairs.forget (pairs : x.Pairs calls) (rests : x.Rests) :
  Pairs { x with outcomes := [] } []
  := by
  obtain ⟨op, queue⟩ := pairs.queue
  have untold : untold { x with outcomes := [] } = [] := rests.told
  refine ⟨⟨none, queue.forget rests.free rests.nobody⟩, ?_, ?_⟩
  · simp [Hosted.tickets, untold, rests.free, rests.nobody]
  · rw [untold]
    nofun

/-- Somebody else may come. -/
theorem Pairs.submit (pairs : x.Pairs calls) (ticket : Nat) (d : Demand) :
  (x.submit ticket d).Pairs (calls ++ [(ticket, d)])
  := by
  obtain ⟨⟨op, queue⟩, tickets, suits⟩ := pairs
  have came : QueueStep x.queue (.come ticket d) none (x.queue.submit ticket d) [] := .came
  refine ⟨⟨_, came.pairs queue⟩, ?_, ?_⟩
  · rw [List.map_append, ← tickets]
    simp [Hosted.tickets, Hosted.submit, Queue.submit, untold]
  · intro t o given
    obtain ⟨d', came, suits⟩ := suits t o given
    exact ⟨d', List.mem_append_left _ came, suits⟩

/-- A session serves the same callers when its queue makes a step, and what comes of it is still to
be told; time and the machine have nothing to do with it. -/
theorem Pairs.goes {mv : QueueMove} {mv? : Option Move} {effects : List Effect}
    (pairs : x.Pairs calls) (step : QueueStep x.queue mv mv? y.queue effects)
    (nobody : mv.call? = none) (outcomes : y.outcomes = x.outcomes)
    (pending : y.pending = x.pending ++ effects) :
  y.Pairs calls
  := by
  obtain ⟨⟨op, queue⟩, tickets, suits⟩ := pairs
  have same : y.untold = x.untold ++ effects.filterMap Effect.outcome? := by
    rw [untold, pending, List.filterMap_append]
    rfl
  have after := step.pairs queue
  rw [nobody, Option.toList_none, List.append_nil] at after
  refine ⟨⟨_, after⟩, ?_, ?_⟩
  · have moved := step.tickets
    rw [nobody, Option.toList_none, List.map_nil, List.append_nil] at moved
    rw [← tickets, Hosted.tickets, Hosted.tickets, same, outcomes]
    simp only [List.map_append, List.append_assoc] at moved ⊢
    rw [moved]
  · intro ticket o given
    rw [same, outcomes, ← List.append_assoc, List.mem_append] at given
    rcases given with given | given
    · apply suits ticket o given
    · apply step.suits queue given

/-- An event other than a call may happen. -/
theorem Pairs.hear (pairs : x.Pairs calls) {e : Event} (call : e.isCall = false) :
  (x.hear e).Pairs calls
  := by
  have step : QueueStep x.queue (.hear e) (some (.hear e)) (x.queue.hear e).1 (x.queue.hear e).2 :=
    .moved (.heard call) rfl
  apply pairs.goes (y := x.hear e) step rfl rfl rfl

/-- The manager may be told of what a process has done. -/
theorem Pairs.tell (pairs : x.Pairs calls) (n : Nat × Output × Machine) :
  (x.tell n).Pairs calls
  := by
  obtain ⟨n, o, m⟩ := n
  have step : QueueStep x.queue (.hear (.output n o)) (some (.hear (.output n o)))
      (x.queue.hear (.output n o)).1 (x.queue.hear (.output n o)).2 :=
    .moved (.heard rfl) rfl
  apply pairs.goes (y := x.tell (n, o, m)) step rfl rfl rfl

/-- The queue may go on. -/
theorem Pairs.proceed (pairs : x.Pairs calls) {s : Queue × List Effect}
    (proceeds : x.queue.proceed = some s) :
  (x.step s).Pairs calls
  := by
  have possible : x.queue.move? .proceed = some s := proceeds
  apply pairs.goes (y := x.step s) (queueStep_of_move? possible) rfl rfl rfl

/-- The machine and the line that is written have nothing to do with the callers. -/
theorem Pairs.congr (pairs : x.Pairs calls) (queue : y.queue = x.queue)
    (outcomes : y.outcomes = x.outcomes) (untold : y.untold = x.untold) :
  y.Pairs calls
  := by
  refine ⟨?_, ?_, ?_⟩
  · rw [queue]
    exact pairs.queue
  · rw [← pairs.tickets, Hosted.tickets, Hosted.tickets, queue, outcomes, untold]
  · rw [outcomes, untold]
    exact pairs.suits

theorem Pairs.prepare (pairs : x.Pairs calls) :
  x.prepare.Pairs calls
  := by
  unfold Hosted.prepare
  dsimp only
  split
  · apply pairs.hear rfl
  · rename_i files _
    apply Pairs.hear (x := { x with machine := { x.machine with files } }) _ rfl
    exact pairs.congr rfl rfl rfl

theorem Pairs.spawn (pairs : x.Pairs calls) (runtime : Text) (arguments : List Text) :
  (x.spawn runtime arguments).Pairs calls
  := by
  unfold Hosted.spawn
  split
  · apply pairs.hear rfl
  · rename_i m s _
    apply Pairs.hear (x := { x with machine := m, started := some s }) _ rfl
    exact pairs.congr rfl rfl rfl

/-- What is first to be done may be done. -/
theorem Pairs.perform (pairs : x.Pairs calls) {e : Effect} {es : List Effect}
    (pending : x.pending = e :: es) :
  ({ x with pending := es }.perform e).Pairs calls
  := by
  cases e with
  | outcome ticket o =>
      obtain ⟨queue, tickets, suits⟩ := pairs
      refine ⟨queue, ?_, ?_⟩
      · simpa [Hosted.tickets, untold, pending, Hosted.perform, Effect.outcome?] using tickets
      · simpa [untold, pending, Hosted.perform, Effect.outcome?] using suits
  | act a =>
      have rest : Pairs { x with pending := es } calls := by
        refine pairs.congr rfl rfl ?_
        rw [untold, untold, pending]
        rfl
      cases a with
      | prepare => apply rest.prepare
      | spawn runtime arguments => apply rest.spawn
      | write line => exact rest.congr rfl rfl rfl
      | closeInput =>
          simp only [Hosted.perform]
          split
          · exact rest.congr rfl rfl rfl
          · exact rest
      | kill =>
          simp only [Hosted.perform]
          split
          · exact rest.congr rfl rfl rfl
          · exact rest
      | answer a => exact rest

/-- The writing of a line may go on. -/
theorem Pairs.pour (pairs : x.Pairs calls) (pours : x.pour? = some y) :
  y.Pairs calls
  := by
  obtain ⟨-, pours⟩ := pours_of_pour? pours
  cases pours with
  | @ended m ok later =>
      apply Pairs.hear (x := { x with unwritten := none, machine := m }) _ rfl
      exact pairs.congr rfl rfl rfl
  | full later => exact pairs.congr rfl rfl rfl

/-- Whatever is done next, the session serves the same callers. -/
theorem Pairs.next (pairs : x.Pairs calls) (next : x.next = some y) :
  y.Pairs calls
  := by
  cases goes_of_next next with
  | performed pending => apply pairs.perform pending
  | proceeded pending proceeds => apply pairs.proceed proceeds
  | poured pending pours => apply pairs.pour pours
  | told => apply pairs.tell
  | expired => apply pairs.hear rfl
  | passed => exact pairs.congr rfl rfl rfl

theorem Pairs.complete (pairs : x.Pairs calls) (completes : x.complete = some y) :
  y.Pairs calls
  := complete_keeps (P := fun x => x.Pairs calls) (fun _ _ pairs => pairs.next)
    (fun _ n pairs _ => pairs.tell n) completes pairs

/-- What somebody gets suits what he has come for, if everybody has another ticket. -/
theorem Pairs.lookup (pairs : x.Pairs calls) (nodup : (calls.map Prod.fst).Nodup) {ticket : Nat}
    {d : Demand} {o : Outcome} (came : (ticket, d) ∈ calls)
    (given : x.outcomes.lookup ticket = some o) :
  o.Suits d
  := by
  obtain ⟨before, after, split, -⟩ := List.lookup_eq_some_iff.mp given
  obtain ⟨d', came', suits⟩ := pairs.suits ticket o (by simp [split])
  have same := List.inj_on_of_nodup_map nodup came came' rfl
  rwa [(Prod.mk.inj same).2]

/-- To be told of what a process has done leaves a session at rest. -/
theorem Rests.tell (rests : x.Rests) (n : Nat × Output × Machine) :
  (x.tell n).Rests
  := by
  obtain ⟨n, o, m⟩ := n
  obtain ⟨-, -, pending⟩ := x.tell_eq n o m
  have after : x.queue.hear (.output n o)
      = ({ x.queue with manager := x.queue.manager.notice n o }, []) := by
    simp only [Queue.hear, Manager.receive, Queue.after, rests.free, List.map_nil]
  refine ⟨?_, ?_, ?_⟩
  · simp only [Hosted.tell, after]
    exact rests.free
  · simp only [Hosted.tell, after]
    exact rests.nobody
  · rw [untold, pending]
    exact rests.told

/-- When nothing comes any more and nobody is served, a session is at rest. -/
theorem rests_of_last (last : x.next = none) (free : x.queue.serving = none) :
  x.Rests
  := by
  unfold Hosted.next at last
  split at last
  case h_1 => cases last
  case h_2 pending =>
    split at last
    case h_1 => cases last
    case h_2 waits => exact ⟨free, Queue.waiting_of_proceed free waits, by rw [untold, pending]; rfl⟩

/-- When everybody is served, the session is at rest. -/
theorem complete_rests (completes : x.complete = some y) :
  y.Rests
  := by
  obtain ⟨z, goes, rfl⟩ := Option.map_eq_some_iff.mp completes
  obtain ⟨-, -, last, free⟩ := goOn_eq_some_iff.mp goes
  exact listen_keeps (fun _ n rests _ => rests.tell n) (rests_of_last last free)

theorem call_rests {d : Demand} {o : Outcome} (called : x.call d = some (o, y)) :
  y.Rests
  := complete_rests (call_eq_some_iff.mp called).1

/-- To a session at rest somebody may come, and is served. -/
theorem Pairs.call {d : Demand} {o : Outcome} (pairs : x.Pairs calls) (rests : x.Rests)
    (called : x.call d = some (o, y)) :
  y.Pairs [(0, d)]
  := ((pairs.forget rests).submit 0 d).complete (call_eq_some_iff.mp called).1

/-- What he gets suits what he has come for. -/
theorem Pairs.call_suits {d : Demand} {o : Outcome} (pairs : x.Pairs calls) (rests : x.Rests)
    (called : x.call d = some (o, y)) :
  o.Suits d
  := by
  apply (pairs.call rests called).lookup (List.nodup_singleton 0) List.mem_cons_self
  exact (call_eq_some_iff.mp called).2

end Hosted

end Session

end NotebookEngine
