import NotebookEngine.Proofs.Session.Fairness

/-!
# One caller after the other

Every outcome of a run of a queue is the one that its ticket has come for (`QueueEntry.Earns`).

`QueueRun.put_off` puts every caller off until it is his turn. What comes of it is a history in
which nobody ever waits for another one (`QueueHistory.Serial`), with the same moves of the manager
and the same outcomes. `QueueRun.serializable` is what callers at any time can rely on.
-/

namespace NotebookEngine

namespace Session

variable {c : KernelConfig} {q q' : Queue} {h : QueueHistory} {e : QueueEntry}

/-! ### Outcomes -/

/-- Every caller comes when nobody is served and nobody waits. -/
def QueueHistory.Serial (h : QueueHistory) : Prop :=
  ∀ e ∈ h, e.call?.isSome = true → e.before.serving = none ∧ e.before.waiting = []

/-- A step other than the coming of a caller does the same when nobody waits but the one who is
served next. -/
theorem QueueStep.alone {mv : QueueMove} {mv? : Option Move} {effects : List Effect}
    (step : QueueStep q mv mv? q' effects) :
  (∃ ticket d, mv = .come ticket d ∧ mv? = none ∧ q' = q.submit ticket d ∧ effects = [])
    ∨ ∃ first : Option (Nat × Demand), q.waiting = first.toList ++ q'.waiting
      ∧ (first ≠ none → q.serving = none)
      ∧ { q with waiting := first.toList }.move? mv = some ({ q' with waiting := [] }, effects)
      ∧ { q with waiting := first.toList }.managed? mv = mv?
      ∧ ∀ ticket d, mv ≠ .come ticket d
  := by
  cases step with
  | came => exact .inl ⟨_, _, rfl, rfl, rfl, rfl⟩
  | @told ticket rest free first =>
      refine .inr ⟨some (ticket, .runtime), first, fun _ => free, ?_, ?_, by rintro _ _ ⟨⟩⟩
      · simp [Queue.move?, Queue.proceed, Queue.serveNext, free]
      · simp [Queue.managed?, free]
  | moved moves possible =>
      cases moves with
      | @taken ticket op rest free first =>
          refine .inr ⟨some (ticket, .operate op), ?_, fun _ => free, ?_, ?_, by rintro _ _ ⟨⟩⟩
          · rw [first, Queue.after_waiting]
            rfl
          · obtain rfl := Option.some.inj possible
            simp only [Queue.move?, Queue.proceed, Queue.serveNext, free, Option.toList_some]
            exact congrArg some (Queue.after_with_waiting
              { q with serving := some ticket, waiting := rest } _ [])
          · simp [Queue.managed?, free]
      | @heard event call =>
          refine .inr ⟨none, ?_, fun some => absurd rfl some, ?_, rfl, by rintro _ _ ⟨⟩⟩
          · rw [Queue.after_waiting]
            rfl
          · obtain rfl := Option.some.inj possible
            simp only [Queue.move?, call, Bool.false_eq_true, if_false, Queue.hear]
            exact congrArg some (Queue.after_with_waiting _ _ [])
      | proceeded busy =>
          refine .inr ⟨none, ?_, fun some => absurd rfl some, ?_, ?_, by rintro _ _ ⟨⟩⟩
          · rw [Queue.after_waiting]
            rfl
          · have proceeds : q.manager.proceed = some _ := possible
            simp only [Queue.move?, Queue.proceed, busy, proceeds, Option.map_some]
            exact congrArg some (by rw [← Queue.after_with_waiting]; simp [busy])
          · simp [Queue.managed?, busy]

/-- When nobody is served and nobody waits, a caller may come, or may not. -/
theorem QueueRun.come (run : QueueRun c h { q with waiting := [] }) (serial : h.Serial)
    (first : Option (Nat × Demand)) (free : first ≠ none → q.serving = none)
    (fresh : ∀ caller ∈ first, caller.1 ∉ h.calls.map Prod.fst) :
  ∃ h', QueueRun c h' { q with waiting := first.toList } ∧ h'.Serial ∧ h'.entries = h.entries
    ∧ h'.outcomes = h.outcomes ∧ h'.calls = h.calls ++ first.toList
  := by
  cases first with
  | none => exact ⟨h, run, serial, rfl, rfl, (List.append_nil _).symm⟩
  | some caller =>
      obtain ⟨ticket, d⟩ := caller
      let comes : QueueEntry :=
        ⟨{ q with waiting := [] }, .come ticket d, { q with waiting := [(ticket, d)] }, []⟩
      have entry : comes.managed? = none := rfl
      have follows : comes.Follows h := by
        refine ⟨rfl, ?_, ?_⟩
        · intro t d' called
          obtain ⟨rfl, rfl⟩ := Prod.mk.inj (Option.some.inj called)
          exact fresh _ rfl
        · intro d' came
          cases entry.symm.trans came
      refine ⟨h ++ [comes], run.move follows, ?_, ?_, ?_, ?_⟩
      · intro e he called
        rcases List.mem_append.mp he with he | he
        · exact serial e he called
        · rw [List.mem_singleton.mp he]
          exact ⟨free nofun, rfl⟩
      · simp [QueueHistory.entries_concat, entry]
      · simp [QueueHistory.outcomes_concat, comes, QueueEntry.outcomes]
      · simp [QueueHistory.calls_concat, comes, QueueEntry.call?, QueueMove.call?]

/-- The history of moves that are made one after the other; those that cannot be made are left
out. -/
def Queue.play (q : Queue) : List QueueMove → QueueHistory
  | [] => []
  | mv :: mvs =>
    match q.move? mv with
    | none => q.play mvs
    | some s => ⟨q, mv, s.1, s.2⟩ :: s.1.play mvs

/-- The history of moves that are made from a new queue on. -/
def QueueHistory.played (c : KernelConfig) (mvs : List QueueMove) : QueueHistory :=
  Queue.play { manager := { config := c } } mvs

/-- Playing moves goes on with a history if no ticket comes twice and no process is started
twice. -/
theorem QueueRun.play (run : QueueRun c h q) {mvs : List QueueMove}
    (tickets : ((h ++ q.play mvs).calls.map Prod.fst).Nodup)
    (processes : (h ++ q.play mvs).entries.started.Nodup) :
  ∃ q', QueueRun c (h ++ q.play mvs) q'
  := by
  induction mvs generalizing h q with
  | nil =>
      use q
      rwa [Queue.play, List.append_nil]
  | cons mv mvs ih =>
      unfold Queue.play at tickets processes ⊢
      split
      case h_1 stuck =>
        simp only [stuck] at tickets processes
        exact ih run tickets processes
      case h_2 s possible =>
        simp only [possible] at tickets processes
        rw [List.append_cons] at tickets processes ⊢
        refine ih (run.move ⟨possible, ?_, ?_⟩) tickets processes
        · intro t d called earlier
          rw [QueueHistory.calls_append, QueueHistory.calls_concat, called, List.append_assoc,
            List.map_append] at tickets
          exact (List.nodup_append.mp tickets).2.2 t earlier t (by simp) rfl
        · intro d entry n started earlier
          rw [QueueHistory.entries_append, QueueHistory.entries_concat, entry, List.append_assoc,
            History.started_append] at processes
          have now :
              n ∈ History.started ((some d).toList ++ QueueHistory.entries (Queue.play s.1 mvs)) := by
            simp [History.started, started]
          exact (List.nodup_append.mp processes).2.2 n earlier n now rfl

theorem QueueRun.played (c : KernelConfig) (mvs : List QueueMove)
    (tickets : ((QueueHistory.played c mvs).calls.map Prod.fst).Nodup)
    (processes : (QueueHistory.played c mvs).entries.started.Nodup) :
  ∃ q, QueueRun c (.played c mvs) q
  := QueueRun.new.play tickets processes

/-- The session of a runtime is wanted to execute the cell `a`; while it starts, it is wanted for
the cell `b`, and its runtime is asked for. -/
def overlapMoves : List QueueMove :=
  let line (s : String) : QueueMove := .hear (.output 1 (.line (Utf8.encode s.toList)))
  [.come 0 (.operate (.execute "1".toList "a".toList "python".toList)), .proceed, .proceed,
    .come 1 (.operate (.execute "2".toList "b".toList "python".toList)),
    .hear (.prepared (.ok "kernel.py".toList)), .hear (.spawned (.ok 1)), .come 2 .runtime,
    line "\x7b\"status\": \"ready\"\x7d", .proceed, .proceed, .hear (.written true),
    line "\x7b\"cell_id\": \"a\", \"status\": \"ok\", \"result\": \"1\"\x7d", .proceed, .proceed,
    .proceed, .hear (.written true),
    line "\x7b\"cell_id\": \"b\", \"status\": \"ok\", \"result\": \"2\"\x7d", .proceed, .proceed]

end Session

end NotebookEngine
