import NotebookEngine.Proofs.Session.Operations
import NotebookEngine.Session.Queue

/-!
# Callers that take turns

A history of a queue (`QueueHistory`) lists what came to it: callers, events of the manager, and the
steps that the queue takes by itself. Callers come at any time, also while others wait or are
served. `QueueStep` lists what a move does to a queue, with the move of its manager. The moves of
the manager in a history (`QueueHistory.entries`) make a run of the manager (`QueueRun.manager`), in
which an operation is under way exactly while a ticket is served (`QueueRun.fits`).
-/

namespace NotebookEngine

namespace Session

variable {c : KernelConfig} {q q' : Queue}

/-! ### Histories of a queue -/

/-- What may come next to a queue. -/
inductive QueueMove where
  | come (ticket : Nat) (d : Demand)
  | hear (e : Event)
  /-- The queue, or the operation that is served, goes on by itself. -/
  | proceed
deriving DecidableEq

/-- The caller that comes. -/
def QueueMove.call? : QueueMove → Option (Nat × Demand)
  | .come ticket d => some (ticket, d)
  | _ => none

theorem QueueMove.call?_eq_none {mv : QueueMove} (nobody : ∀ ticket d, mv ≠ .come ticket d) :
  mv.call? = none
  := by
  unfold call?
  split
  case h_1 ticket d => cases nobody ticket d rfl
  case h_2 => rfl

/-- The event is a call. -/
def Event.isCall : Event → Bool
  | .call _ => true
  | _ => false

/-- The step of a move, if it can be made. Only the queue calls its manager. -/
def Queue.move? (q : Queue) : QueueMove → Option (Queue × List Effect)
  | .come ticket d => some (q.submit ticket d, [])
  | .hear e => if e.isCall then none else some (q.hear e)
  | .proceed => q.proceed

/-- The move of the manager that is made by a move of the queue. -/
def Queue.managed? (q : Queue) (mv : QueueMove) : Option Move :=
  match mv, q.serving, q.waiting with
  | .hear e, _, _ => some (.hear e)
  | .proceed, some _, _ => some .proceed
  | .proceed, none, (_, .operate op) :: _ => some (.hear (.call op))
  | _, _, _ => none

/-- What is to be done. -/
def Effect.action? : Effect → Option Action
  | .act a => some a
  | .outcome _ _ => none

/-- The outcome of a ticket. -/
def Effect.outcome? : Effect → Option (Nat × Outcome)
  | .act _ => none
  | .outcome ticket o => some (ticket, o)

/-- A move of a queue that was made. -/
structure QueueEntry where
  before : Queue
  move : QueueMove
  after : Queue
  effects : List Effect

namespace QueueEntry

/-- The caller that comes. -/
def call? (e : QueueEntry) : Option (Nat × Demand) :=
  e.move.call?

/-- The outcomes that are given. -/
def outcomes (e : QueueEntry) : List (Nat × Outcome) :=
  e.effects.filterMap Effect.outcome?

/-- What happens to the manager. -/
def managed? (e : QueueEntry) : Option Entry :=
  (e.before.managed? e.move).map fun mv =>
    ⟨e.before.manager, mv, e.after.manager, e.effects.filterMap Effect.action?⟩

end QueueEntry

/-- The moves of a queue that were made, oldest first. -/
abbrev QueueHistory := List QueueEntry

namespace QueueHistory

/-- What happened to the manager. -/
def entries (h : QueueHistory) : History :=
  h.filterMap QueueEntry.managed?

/-- The callers that came, in their order. -/
def calls (h : QueueHistory) : List (Nat × Demand) :=
  h.filterMap QueueEntry.call?

/-- The outcomes that were given, in their order. -/
def outcomes (h : QueueHistory) : List (Nat × Outcome) :=
  h.flatMap QueueEntry.outcomes

end QueueHistory

/-- The entry may come after a history: its move can be made, a caller that comes has a ticket of
its own, and a process that is started is told apart from those before. -/
structure QueueEntry.Follows (e : QueueEntry) (h : QueueHistory) : Prop where
  possible : e.before.move? e.move = some (e.after, e.effects)
  ticket : ∀ t d, e.call? = some (t, d) → t ∉ h.calls.map Prod.fst
  fresh : ∀ d, e.managed? = some d → ∀ n, d.started? = some n → n ∉ h.entries.started

/-- A history of a queue before a manager that was new with the settings `c`. -/
inductive QueueRun (c : KernelConfig) : QueueHistory → Queue → Prop
  | new : QueueRun c [] { manager := { config := c } }
  | move {h : QueueHistory} {e : QueueEntry} :
    QueueRun c h e.before → e.Follows h → QueueRun c (h ++ [e]) e.after

/-! ### Steps -/

namespace Queue

/-- The queue after a step of its manager that gives an answer to the ticket served, or none. -/
theorem after_cases (q : Queue) (step : Manager.Step) :
  (∃ ticket a, q.serving = some ticket ∧ answerAmong? step.2 = some a
      ∧ q.after step = ({ q with manager := step.1, serving := none },
        step.2.map .act ++ [.outcome ticket (.answer a)]))
    ∨ (q.serving = none ∨ answerAmong? step.2 = none)
      ∧ q.after step = ({ q with manager := step.1 }, step.2.map .act)
  := by
  obtain ⟨m, actions⟩ := step
  unfold after
  cases serving : q.serving with
  | none => exact .inr ⟨.inl rfl, rfl⟩
  | some ticket =>
      cases answer : answerAmong? actions with
      | none => exact .inr ⟨.inr rfl, by simp only [answer]⟩
      | some a => exact .inl ⟨ticket, a, rfl, rfl, by simp only [answer]⟩

@[simp]
theorem after_manager (q : Queue) (step : Manager.Step) :
  (q.after step).1.manager = step.1
  := by
  rcases q.after_cases step with ⟨_, _, -, -, after⟩ | ⟨-, after⟩ <;> rw [after]

@[simp]
theorem after_waiting (q : Queue) (step : Manager.Step) :
  (q.after step).1.waiting = q.waiting
  := by
  rcases q.after_cases step with ⟨_, _, -, -, after⟩ | ⟨-, after⟩ <;> rw [after]

theorem filterMap_action?_act (actions : List Action) :
  (actions.map Effect.act).filterMap Effect.action? = actions
  := by
  rw [List.filterMap_map]
  exact List.filterMap_some

theorem filterMap_outcome?_act (actions : List Action) :
  (actions.map Effect.act).filterMap Effect.outcome? = []
  := by
  rw [List.filterMap_map, List.filterMap_eq_nil_iff]
  exact fun _ _ => rfl

/-- What is to be done after a step is what the manager does. -/
@[simp]
theorem after_actions (q : Queue) (step : Manager.Step) :
  (q.after step).2.filterMap Effect.action? = step.2
  := by
  rcases q.after_cases step with ⟨_, _, -, -, after⟩ | ⟨-, after⟩
  · rw [after, List.filterMap_append, filterMap_action?_act]
    exact List.append_nil _
  · rw [after, filterMap_action?_act]

/-- A ticket is served until it has its outcome. -/
theorem after_tickets (q : Queue) (step : Manager.Step) :
  ((q.after step).2.filterMap Effect.outcome?).map Prod.fst ++ (q.after step).1.serving.toList
    = q.serving.toList
  := by
  rcases q.after_cases step with ⟨_, _, serving, -, after⟩ | ⟨-, after⟩
  · rw [after, List.filterMap_append, filterMap_outcome?_act, serving]
    rfl
  · rw [after, filterMap_outcome?_act]
    rfl

/-- Who waits has nothing to do with what comes of a step. -/
theorem after_with_waiting (q : Queue) (step : Manager.Step) (ws : List (Nat × Demand)) :
  { q with waiting := ws }.after step
    = ({ (q.after step).1 with waiting := ws }, (q.after step).2)
  := by
  obtain ⟨m, actions⟩ := step
  simp only [after]
  cases q.serving with
  | none => rfl
  | some ticket => cases answerAmong? actions <;> rfl

/-- While a ticket is served, its operation goes on by itself or nothing does. -/
theorem proceed_of_busy (q : Queue) (serving : q.serving ≠ none) :
  q.proceed = q.manager.proceed.map q.after
  := by
  unfold proceed
  split
  case h_1 free => cases serving free
  case h_2 => rfl

/-- While a ticket is served, an operation is under way. -/
theorem busy_of_serving {ticket : Nat} (serving : q.serving = some ticket)
    (free_iff : q.serving = none ↔ q.manager.stage = .idle) :
  q.manager.stage ≠ .idle
  := by
  rw [Ne, ← free_iff, serving]
  exact Option.some_ne_none ticket

/-- When a queue that serves nobody does not go on, nobody waits. -/
theorem waiting_of_proceed {q : Queue} (free : q.serving = none) (waits : q.proceed = none) :
  q.waiting = []
  := by
  cases waiting : q.waiting with
  | nil => rfl
  | cons w ws =>
      obtain ⟨ticket, d⟩ := w
      cases d <;> simp only [proceed, serveNext, free, waiting, reduceCtorEq] at waits

end Queue

/-- A move of the manager belongs to one of the queue: the queue that is left to make it serves
the next caller first if the move is his call. -/
inductive Queue.Moves (q : Queue) : QueueMove → Move → Queue → Prop
  | taken {ticket : Nat} {op : Operation} {rest : List (Nat × Demand)} (free : q.serving = none)
      (first : q.waiting = (ticket, .operate op) :: rest) :
    Moves q .proceed (.hear (.call op)) { q with serving := some ticket, waiting := rest }
  | heard {e : Event} (call : e.isCall = false) : Moves q (.hear e) (.hear e) q
  | proceeded {ticket : Nat} (busy : q.serving = some ticket) : Moves q .proceed .proceed q

/-- What a move does to a queue, with the move of the manager. -/
inductive QueueStep (q : Queue) : QueueMove → Option Move → Queue → List Effect → Prop
  | came {ticket : Nat} {d : Demand} : QueueStep q (.come ticket d) none (q.submit ticket d) []
  /-- To know the runtime, nobody need be served. -/
  | told {ticket : Nat} {rest : List (Nat × Demand)} (free : q.serving = none)
      (first : q.waiting = (ticket, .runtime) :: rest) :
    QueueStep q .proceed none { q with waiting := rest }
      [.outcome ticket (.runtime q.manager.runtime)]
  | moved {qmv : QueueMove} {mv : Move} {q₀ : Queue} {step : Manager.Step}
      (moves : q.Moves qmv mv q₀) (possible : q.manager.move? mv = some step) :
    QueueStep q qmv (some mv) (q₀.after step).1 (q₀.after step).2

variable {h : QueueHistory} {e : QueueEntry} {d : Entry}

/-- A move that can be made does what the steps list, and nothing else. -/
theorem queueStep_of_move? {mv : QueueMove} {s : Queue × List Effect}
    (possible : q.move? mv = some s) :
  QueueStep q mv (q.managed? mv) s.1 s.2
  := by
  cases mv with
  | come ticket d =>
      obtain rfl := Option.some.inj possible
      exact .came
  | hear e =>
      cases call : e.isCall with
      | true => simp [Queue.move?, call] at possible
      | false =>
          simp only [Queue.move?, call, Bool.false_eq_true, if_false] at possible
          obtain rfl := Option.some.inj possible
          exact .moved (.heard call) rfl
  | proceed =>
      simp only [Queue.move?, Queue.proceed] at possible
      split at possible
      case h_1 free =>
        unfold Queue.serveNext at possible
        split at possible
        case h_1 ticket rest _ first =>
          obtain rfl := Option.some.inj possible
          have managed : q.managed? .proceed = none := by simp only [Queue.managed?, free, first]
          rw [managed]
          exact .told free first
        case h_2 ticket op rest _ first =>
          obtain rfl := Option.some.inj possible
          simp only [Queue.managed?, free, first]
          exact .moved (.taken free first) rfl
        case h_3 => cases possible
      case h_2 ticket busy =>
        obtain ⟨step, proceeds, rfl⟩ := Option.map_eq_some_iff.mp possible
        simp only [Queue.managed?, busy]
        exact .moved (.proceeded busy) proceeds

/-- An entry that follows a history is a step. -/
theorem QueueEntry.Follows.step (follows : e.Follows h) :
  QueueStep e.before e.move (e.before.managed? e.move) e.after e.effects
  := queueStep_of_move? follows.possible

/-! ### The manager -/

/-- A step of a queue makes a move of its manager, or leaves the manager as it is. -/
theorem QueueStep.manager {mv : QueueMove} {mv? : Option Move} {effects : List Effect}
    (step : QueueStep q mv mv? q' effects) :
  (mv? = none ∧ q'.manager = q.manager)
    ∨ ∃ mv₀, mv? = some mv₀
      ∧ q.manager.move? mv₀ = some (q'.manager, effects.filterMap Effect.action?)
  := by
  cases step with
  | came | told => exact .inl ⟨rfl, rfl⟩
  | moved moves possible =>
      refine .inr ⟨_, rfl, ?_⟩
      rw [Queue.after_manager, Queue.after_actions]
      exact possible

/-- What is heard comes to the manager. -/
theorem QueueStep.receive {event : Event} {mv? : Option Move} {effects : List Effect}
    (step : QueueStep q (.hear event) mv? q' effects) :
  q'.manager = (q.manager.receive event).1
  := by
  cases step with
  | moved moves possible =>
      cases moves with
      | heard =>
          rw [Queue.after_manager]
          exact (congrArg Prod.fst (Option.some.inj possible)).symm

theorem QueueHistory.entries_append (h h' : QueueHistory) :
  entries (h ++ h') = h.entries ++ h'.entries
  := List.filterMap_append

theorem QueueHistory.calls_append (h h' : QueueHistory) :
  calls (h ++ h') = h.calls ++ h'.calls
  := List.filterMap_append

theorem QueueHistory.entries_concat (h : QueueHistory) (e : QueueEntry) :
  entries (h ++ [e]) = h.entries ++ e.managed?.toList
  := by
  cases he : e.managed? <;> simp [entries, he]

theorem QueueHistory.calls_concat (h : QueueHistory) (e : QueueEntry) :
  calls (h ++ [e]) = h.calls ++ e.call?.toList
  := by
  cases he : e.call? <;> simp [calls, he]

theorem QueueHistory.outcomes_concat (h : QueueHistory) (e : QueueEntry) :
  outcomes (h ++ [e]) = h.outcomes ++ e.outcomes
  := by
  simp [outcomes]

/-- A run ends with its last entry. -/
theorem QueueRun.concat_iff :
  QueueRun c (h ++ [e]) q ↔ QueueRun c h e.before ∧ e.Follows h ∧ q = e.after
  := by
  constructor
  case mpr =>
    rintro ⟨run, follows, rfl⟩
    exact run.move follows
  case mp =>
    intro run
    generalize hh : h ++ [e] = h₁ at run
    cases run with
    | new => simp at hh
    | move run follows =>
        obtain ⟨rfl, same⟩ := List.append_inj' hh rfl
        obtain rfl := List.head_eq_of_cons_eq same
        exact ⟨run, follows, rfl⟩

/-- A history leads to one queue only. -/
theorem QueueRun.unique (run : QueueRun c h q) (run' : QueueRun c h q') :
  q = q'
  := by
  cases run with
  | new =>
      generalize none : ([] : QueueHistory) = h at run'
      cases run' with
      | new => rfl
      | move => simp at none
  | move => exact (concat_iff.mp run').2.2.symm

/-- The history before an entry leads to the queue before it. -/
theorem QueueRun.at_entry {h' : QueueHistory} (run : QueueRun c (h ++ e :: h') q) :
  QueueRun c h e.before ∧ e.Follows h
  := by
  induction h' using List.reverseRecOn generalizing q with
  | nil =>
      obtain ⟨before, follows, -⟩ := concat_iff.mp run
      exact ⟨before, follows⟩
  | append_singleton h' d ih =>
      rw [← List.cons_append, ← List.append_assoc] at run
      exact ih (concat_iff.mp run).1

/-- What happens to the manager in a run of a queue is a run of the manager. -/
theorem QueueRun.manager (run : QueueRun c h q) :
  Run c h.entries q.manager
  := by
  induction run with
  | new => exact .new
  | @move h e run follows ih =>
      rw [QueueHistory.entries_concat]
      rcases follows.step.manager with ⟨none, same⟩ | ⟨mv, managed, possible⟩
      · rw [QueueEntry.managed?, none, same, Option.map_none, Option.toList_none, List.append_nil]
        exact ih
      · have entry : e.managed? = some ⟨e.before.manager, mv, e.after.manager,
            e.effects.filterMap Effect.action?⟩ := by
          rw [QueueEntry.managed?, managed, Option.map_some]
        rw [entry, Option.toList_some]
        exact ih.move ⟨possible, follows.fresh _ entry⟩

/-! ### Tickets -/

/-- Who waits has come and is not served yet; the others have been, in the order in which they
came. -/
theorem QueueRun.served (run : QueueRun c h q) :
  ∃ served, h.calls = served ++ q.waiting
    ∧ h.outcomes.map Prod.fst ++ q.serving.toList = served.map Prod.fst
  := by
  induction run with
  | new => exact ⟨[], rfl, rfl⟩
  | @move h e run follows ih =>
      obtain ⟨served, calls, tickets⟩ := ih
      rw [QueueHistory.calls_concat, QueueHistory.outcomes_concat, List.map_append]
      have step := follows.step
      generalize e.before.managed? e.move = mv? at step
      obtain ⟨q, mv, q', effects⟩ := e
      dsimp only at step calls tickets ⊢
      cases step with
      | came =>
          refine ⟨served, ?_, ?_⟩
          · simp [calls, QueueEntry.call?, QueueMove.call?, Queue.submit]
          · simpa [QueueEntry.outcomes, Queue.submit] using tickets
      | @told ticket rest free first =>
          refine ⟨served ++ [(ticket, .runtime)], ?_, ?_⟩
          · simpa [QueueEntry.call?, QueueMove.call?, first] using calls
          · simpa [QueueEntry.outcomes, Effect.outcome?, free] using tickets
      | moved moves possible =>
          simp only [QueueEntry.outcomes, List.append_assoc, Queue.after_tickets,
            Queue.after_waiting]
          cases moves with
          | @taken ticket op rest free first =>
              refine ⟨served ++ [(ticket, .operate op)], ?_, ?_⟩
              · simpa [QueueEntry.call?, QueueMove.call?, first] using calls
              · simpa [free] using tickets
          | heard | proceeded =>
              refine ⟨served, ?_, tickets⟩
              simpa [QueueEntry.call?, QueueMove.call?] using calls

/-- No ticket comes twice. -/
theorem QueueRun.nodup (run : QueueRun c h q) :
  (h.calls.map Prod.fst).Nodup
  := by
  induction run with
  | new => exact List.nodup_nil
  | @move h e run follows ih =>
      rw [QueueHistory.calls_concat, List.map_append]
      cases call : e.call? with
      | none => simpa using ih
      | some caller =>
          refine List.nodup_append.mpr ⟨ih, by simp, ?_⟩
          rintro t ht t' ht' rfl
          simp only [Option.toList_some, List.map_cons, List.map_nil, List.mem_singleton] at ht'
          exact follows.ticket caller.1 caller.2 call (ht' ▸ ht)

/-- The tickets in line: the one that is served, and those that wait. -/
def Queue.tickets (q : Queue) : List Nat :=
  q.serving.toList ++ q.waiting.map Prod.fst

/-- Those that have no outcome yet are in line. -/
theorem QueueRun.tickets (run : QueueRun c h q) :
  h.outcomes.map Prod.fst ++ q.tickets = h.calls.map Prod.fst
  := by
  obtain ⟨served, calls, tickets⟩ := run.served
  rw [Queue.tickets, ← List.append_assoc, tickets, calls, List.map_append]

/-! ### Turns -/

/-- An operation is under way exactly while a ticket is served, and it is the one that the caller
with the ticket has come for. -/
inductive Turn (calls : List (Nat × Demand)) : Option Nat → Option Operation → Prop
  | free : Turn calls none none
  | served {ticket : Nat} {op : Operation} (came : (ticket, .operate op) ∈ calls) :
    Turn calls (some ticket) (some op)

theorem Turn.mono {calls calls' : List (Nat × Demand)} {s : Option Nat} {op : Option Operation}
    (turn : Turn calls s op) (more : calls ⊆ calls') :
  Turn calls' s op
  := by
  cases turn with
  | free => exact .free
  | served came => exact .served (more came)

/-- An operation is under way unless the manager is idle. -/
theorem Stage.Serves.eq_none_iff {s : Stage} {runtime : Option Text} {op : Option Operation}
    (serves : s.Serves runtime op) :
  op = none ↔ s = .idle
  := by
  cases s
  case idle => exact ⟨fun _ => rfl, fun _ => serves⟩
  case closed | asking | leaving | killed | preparing | spawning =>
    obtain ⟨op, hop, -⟩ := serves
    simp [Option.mem_def.mp hop]
  case greeting =>
    obtain ⟨path, -, op, hop, -⟩ := serves
    simp [Option.mem_def.mp hop]
  case calling =>
    obtain ⟨-, -, path, -, hop⟩ := serves
    simp [hop]
  case sending | awaiting =>
    obtain ⟨-, -, path, -, code, cellId, hop⟩ := serves
    simp [hop]

/-- A step of the manager leaves the turn to whom it belongs, or ends it with an answer. -/
theorem Turn.after {calls : List (Nat × Demand)} {op : Option Operation} {m : Manager} {mv : Move}
    {step : Manager.Step}
    (turn : Turn calls q.serving ((Entry.mk m mv step.1 step.2).call?.or op)) :
  Turn calls (q.after step).1.serving ((Entry.mk m mv step.1 step.2).carry op)
  := by
  rcases q.after_cases step with ⟨_, _, -, answer, after⟩ | ⟨quiet, after⟩
  · have answer : (Entry.mk m mv step.1 step.2).answer? = some _ := answer
    rw [after, Entry.carry_of_answer answer]
    exact .free
  · rw [after]
    cases answer : (Entry.mk m mv step.1 step.2).answer? with
    | none =>
        rw [Entry.carry_of_no_answer answer]
        exact turn
    | some a =>
        rw [Entry.carry_of_answer answer]
        rcases quiet with free | silent
        · rw [free]
          exact .free
        · cases silent.symm.trans answer

/-- Who is left waiting has waited before. -/
theorem Queue.Moves.waiting {qmv : QueueMove} {mv : Move} (moves : q.Moves qmv mv q') :
  q'.waiting ⊆ q.waiting
  := by
  cases moves with
  | taken free first =>
      rw [first]
      exact List.subset_cons_self _ _
  | heard | proceeded => exact List.Subset.refl _

/-- The move of the manager takes up the operation of the ticket that is served then, or none. -/
theorem Queue.Moves.turn {qmv : QueueMove} {mv : Move} {calls : List (Nat × Demand)}
    {op : Option Operation} (moves : q.Moves qmv mv q') (turn : Turn calls q.serving op)
    (waiting : q.waiting ⊆ calls) (idle : op = none → q.manager.stage = .idle)
    (step : Manager.Step) :
  Turn calls q'.serving ((Entry.mk q.manager mv step.1 step.2).call?.or op)
  := by
  cases moves with
  | @taken ticket op₀ rest free first =>
      rw [free] at turn
      cases turn with
      | free =>
          have called : (Entry.mk q.manager (.hear (.call op₀)) step.1 step.2).call?
              = some op₀ :=
            Entry.call?_eq_some_iff.mpr ⟨rfl, idle rfl⟩
          rw [called, Option.some_or]
          apply Turn.served
          apply waiting
          rw [first]
          apply List.mem_cons_self
  | @heard event call =>
      have none : (Entry.mk q.manager (.hear event) step.1 step.2).call? = none := by
        apply Entry.call?_of_busy
        intro op move
        obtain rfl := Move.hear.inj move
        cases call
      rw [none, Option.none_or]
      exact turn
  | proceeded busy =>
      rw [Entry.call?_of_own (.inl rfl), Option.none_or]
      exact turn

/-- A queue before a sound manager fits those who have come and the operation under way. -/
structure Queue.Fits (q : Queue) (calls : List (Nat × Demand)) (op : Option Operation) : Prop where
  sound : q.manager.Sound
  serves : q.manager.stage.Serves q.manager.runtime op
  turn : Turn calls q.serving op
  waiting : q.waiting ⊆ calls

/-- Nobody is served exactly when the manager is idle. -/
theorem Queue.Fits.free_iff {calls : List (Nat × Demand)} {op : Option Operation}
    (fits : q.Fits calls op) :
  q.serving = none ↔ q.manager.stage = .idle
  := by
  rw [← fits.serves.eq_none_iff]
  have turn := fits.turn
  generalize q.serving = serving at turn
  cases turn <;> simp

/-- The operation that a step leaves under way, if `op` was before it. -/
def Queue.carried (q : Queue) (op : Option Operation) (mv? : Option Move) (q' : Queue)
    (effects : List Effect) : Option Operation :=
  mv?.elim op fun mv =>
    (Entry.mk q.manager mv q'.manager (effects.filterMap Effect.action?)).carry op

/-- After a step, the queue fits those who have come and the operation that is then under way. -/
theorem QueueStep.fits {mv : QueueMove} {mv? : Option Move} {effects : List Effect}
    {calls : List (Nat × Demand)} {op : Option Operation} (step : QueueStep q mv mv? q' effects)
    (fits : q.Fits calls op) :
  q'.Fits (calls ++ mv.call?.toList) (q.carried op mv? q' effects)
  := by
  have more : calls ⊆ calls ++ mv.call?.toList := List.subset_append_left _ _
  cases step with
  | came =>
      refine ⟨fits.sound, fits.serves, fits.turn.mono more, ?_⟩
      exact List.append_subset.mpr ⟨List.subset_append_of_subset_left _ fits.waiting,
        List.subset_append_right _ _⟩
  | told free first =>
      refine ⟨fits.sound, fits.serves, fits.turn.mono more, ?_⟩
      have waiting := first ▸ fits.waiting
      exact List.Subset.trans (List.subset_of_cons_subset waiting) more
  | @moved _ mv₀ q₀ step moves possible =>
      have transition := transition_of_move? possible
      have idle := fits.serves.eq_none_iff.mp
      have came := List.Subset.trans fits.waiting more
      simp only [Queue.carried, Option.elim_some, Queue.after_manager, Queue.after_actions]
      refine ⟨?_, ?_, ?_, ?_⟩
      · rw [Queue.after_manager]
        exact fits.sound.transition transition
      · rw [Queue.after_manager]
        exact transition.serves fits.serves
      · exact Turn.after (moves.turn (fits.turn.mono more) came idle step)
      · rw [Queue.after_waiting]
        exact List.Subset.trans moves.waiting came

/-- In a run, the queue fits what came to it. -/
theorem QueueRun.fits (run : QueueRun c h q) :
  q.Fits h.calls h.entries.operation?
  := by
  induction run with
  | new => exact ⟨.inl ⟨rfl, rfl⟩, rfl, .free, List.nil_subset _⟩
  | @move h e run follows ih =>
      have fits := follows.step.fits ih
      rw [QueueHistory.calls_concat, QueueHistory.entries_concat, QueueEntry.managed?]
      generalize e.before.managed? e.move = mv? at fits ⊢
      cases mv? with
      | none =>
          rw [Option.map_none, Option.toList_none, List.append_nil]
          exact fits
      | some mv =>
          rw [Option.map_some, Option.toList_some, History.operation?_concat]
          exact fits

end Session

end NotebookEngine
