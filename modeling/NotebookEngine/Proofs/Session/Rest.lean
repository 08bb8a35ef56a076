import NotebookEngine.Proofs.Session.Processes

/-!
# Managers at rest

What callers find between operations, however the operations before went and whatever the processes
did meanwhile: a session is held exactly if its runtime is known, no call is pending, and a session
whose process has left is not ready and keeps nobody waiting. A start that fails leaves nothing
behind, and after a shutdown every process that was ever started is reaped.
-/

namespace NotebookEngine

namespace Session

variable {m m' : Manager} {mv : Move} {actions : List Action} {c : KernelConfig} {h : History}

/-- What holds of a manager that works on no operation. -/
structure Manager.Settled (m : Manager) : Prop where
  held : m.live.isSome = m.runtime.isSome
  alive : m.isAlive = true →
    m.isReady = true ∧ m.process?.isSome = true ∧ m.runtime.isSome = true
  call : ∀ l ∈ m.live, l.slot.call = .none

/-! ### Between operations -/

/-- A session that is alive is ready, and the exit of its process is not stored. -/
theorem Slot.isAlive_iff {s : Slot} :
  s.isAlive = true ↔ s.ready = true ∧ s.hasExited = false
  := by
  simp [isAlive, and_comm]

/-- A sound manager that works on no operation is settled. -/
theorem Manager.Sound.settled (sound : m.Sound) (idle : m.stage = .idle) :
  m.Settled
  := by
  rcases sound.promises idle with ⟨live, runtime⟩ | ⟨l, ⟨live, runtime, -⟩, -, call⟩
  · refine ⟨by rw [live, runtime]; rfl, ?_, ?_⟩
    · simp [isAlive, live]
    · simp [live]
  · refine ⟨by rw [live, runtime]; rfl, ?_, ?_⟩
    · intro alive
      simp only [isAlive, live, Option.any_some] at alive
      obtain ⟨ready, running⟩ := Slot.isAlive_iff.mp alive
      simp [isReady, process?, live, runtime, ready, running]
    · rintro k hk
      obtain rfl := Option.some.inj (live.symm.trans hk)
      exact call

/-- Nobody waits on a session that is held between operations once the exit of its process is
stored. -/
theorem Manager.Sound.gone (sound : m.Sound) (idle : m.stage = .idle) {l : Live}
    (session : m.session? = some l) {code : Option Int} (exited : l.slot.exited = some code) :
  l.Gone code
  := by
  simp only [session?, idle] at session
  rcases sound.promises idle with vacant | ⟨k, holds, done, call⟩
  · cases vacant.live.symm.trans session
  · obtain rfl := Option.some.inj (holds.live.symm.trans session)
    exact holds.sound.gone_of_exited exited done call

/-! ### Answers to starts and shutdowns -/

/-- An operation that is no execution is answered by a manager that holds nothing, which is closed if
the operation is a shutdown, or by one whose session has announced itself. -/
theorem Run.returns_vacant {e : Entry} {op : Operation} {a : Answer} (run : Run c h e.before)
    (follows : e.Follows h) (returns : e.Returns h op a)
    (not_execute : ∀ code cellId runtime, op ≠ .execute code cellId runtime) :
  (Vacant e.after.live e.after.runtime
      ∧ (op = .shutdown → a = .done ∧ e.before.stage = .closed (.answer .done)))
    ∨ (a = .done ∧ op ≠ .shutdown)
  := by
  obtain ⟨operation, answer⟩ := returns
  have answers := follows.answers answer
  have serves := run.serves
  have sound := run.sound
  obtain ⟨m, mv, m', actions⟩ := e
  dsimp only at answers serves sound ⊢
  rcases answers with ⟨why, rfl⟩ | ⟨l, stage, -, why, -⟩
  · cases why with
    | closed own stage =>
        rw [stage] at serves
        rw [Entry.call?_of_own own, Option.none_or] at operation
        obtain ⟨o, ho, serves⟩ := serves
        obtain rfl := Option.some.inj (operation.symm.trans ho)
        refine .inl ⟨sound.promises stage, ?_⟩
        rintro rfl
        cases serves with
        | shutdown => exact ⟨rfl, stage⟩
        | failed starts => cases starts rfl
    | unknown idle unknown =>
        have restarts : op = .restart := by
          simpa [Entry.call?, idle] using operation.symm
        refine .inl ⟨?_, by simp [restarts]⟩
        rcases sound.promises idle with vacant | ⟨l, holds, -⟩
        · exact vacant
        · cases unknown.symm.trans holds.runtime
    | unprepared stage | unspawned stage =>
        rw [stage] at serves
        obtain ⟨o, ho, serves⟩ := serves
        obtain rfl := Option.some.inj (operation.symm.trans ho)
        refine .inl ⟨sound.promises stage, ?_⟩
        rintro rfl
        cases serves
    | greeted own stage =>
        rw [stage] at serves
        rw [Entry.call?_of_own own, Option.none_or] at operation
        obtain ⟨path, -, o, ho, serves⟩ := serves
        obtain rfl := Option.some.inj (operation.symm.trans ho)
        refine .inr ⟨rfl, ?_⟩
        rintro rfl
        cases serves
    | absent own stage | refused own stage =>
        rw [stage] at serves
        rw [Entry.call?_of_own own, Option.none_or] at operation
        obtain ⟨-, -, path, -, executes⟩ := serves
        cases not_execute _ _ _ (Option.some.inj (operation.symm.trans executes))
  · rw [stage] at serves
    rw [Entry.call?_of_own why.own, Option.none_or] at operation
    obtain ⟨-, -, path, -, code, cellId, executes⟩ := serves
    cases not_execute _ _ _ (Option.some.inj (operation.symm.trans executes))

/-- When a manager is closed, every process that was started is reaped. -/
theorem Run.reaped_of_closed {next : Sequel} (run : Run c h m) (stage : m.stage = .closed next)
    {n : Nat} (started : n ∈ h.started) :
  ∃ d ∈ h, ∃ code, d.reaped? n = some code
  := by
  rcases run.reaped started with reaped | ⟨l, session, -⟩
  · exact reaped
  · simp only [Manager.session?, stage] at session
    cases (run.sound.promises stage).live.symm.trans session

/-- A closed manager that is to answer a shutdown does so, and until then it does nothing. -/
theorem Transition.of_closed (stage : m.stage = .closed (.answer .done)) (live : m.live = none)
    (step : Transition m mv m' actions) :
  (m' = m ∧ actions = []) ∨ (m' = { m with stage := .idle } ∧ actions = [.answer .done])
  := by
  cases step with
  | ignored => exact .inl ⟨rfl, rfl⟩
  | noticed =>
      refine .inl ⟨Manager.notice_eq_self ?_, rfl⟩
      intro l session
      simp only [Manager.session?, stage, live] at session
      cases session
  | finished why =>
      cases why with
      | closed _ closed =>
          obtain rfl := Sequel.answer.inj (Stage.closed.inj (stage.symm.trans closed))
          exact .inr ⟨rfl, rfl⟩
      | _ => simp_all
  | closing why => cases why <;> simp_all
  | _ => simp_all

/-- Until a shutdown of a manager that holds nothing is answered, it waits to be, and nothing is
done. -/
theorem Run.closed_of_vacant {h₁ h₂ : History} {e : Entry} (run : Run c (h₁ ++ e :: h₂) m)
    (called : e.call? = some .shutdown) (live : e.before.live = none)
    (unanswered : ∀ d ∈ h₂, d.answer? = none) :
  m = { e.before with stage := .closed (.answer .done) } ∧ ∀ d ∈ e :: h₂, d.actions = []
  := by
  induction h₂ using List.reverseRecOn generalizing m with
  | nil =>
      obtain ⟨before, follows, rfl⟩ := Run.concat_iff.mp run
      obtain ⟨move, idle⟩ := Entry.call?_eq_some_iff.mp called
      have runtime : e.before.runtime = none := by
        rcases before.sound.held with vacant | ⟨l, holds⟩
        · exact vacant.runtime
        · cases live.symm.trans holds.live
      have possible := follows.possible
      simp only [move, Manager.move?, Manager.receive, idle, Manager.take, Manager.close, live,
        Manager.goTo, Manager.goDoing] at possible
      obtain ⟨after, actions⟩ := Prod.mk.inj (Option.some.inj possible)
      rw [← after, ← live, ← runtime]
      refine ⟨rfl, ?_⟩
      rintro d hd
      rw [List.mem_singleton.mp hd, actions]
  | append_singleton h₂ d ih =>
      rw [← List.cons_append, ← List.append_assoc] at run
      obtain ⟨before, follows, rfl⟩ := Run.concat_iff.mp run
      obtain ⟨closed, still⟩ := ih before fun k hk => unanswered k (List.mem_append_left _ hk)
      rcases follows.transition.of_closed (by rw [closed]) (by rw [closed]; exact live) with
        ⟨same, quiet⟩ | ⟨-, answers⟩
      · refine ⟨same.trans closed, ?_⟩
        intro k hk
        rw [← List.cons_append, List.mem_append] at hk
        rcases hk with hk | hk
        · exact still k hk
        · rw [List.mem_singleton.mp hk, quiet]
      · have answer : d.answer? = some .done := by rw [Entry.answer?, answers, answerAmong?]
        cases answer.symm.trans (unanswered d (by simp))

/-! ### Rest -/

/-- Of what callers find, in any run:
a manager that works on no operation is settled;
once the exit of the process of its session is stored while no operation is under way, or is recorded
in all its parts at any time, nobody waits on the session, and so it is as long as the session is the
same;
a start or restart that fails leaves no session and no runtime;
a shutdown never fails, it leaves no session and no runtime, and every process that was started is
reaped;
and a shutdown of a manager that holds no session does nothing and leaves the manager as it was. -/
theorem Run.at_rest (run : Run c h m) :
  (m.stage = .idle → m.Settled)
    ∧ (∀ l code, m.session? = some l →
      (m.stage = .idle ∧ l.slot.exited = some code) ∨ l.reader = .recording code [] →
      ∀ h' m' l', Run c (h ++ h') m' → m'.session? = some l' → l'.process = l.process →
      l'.Gone code)
    ∧ (∀ (r : Nat) (e : Entry), h[r]? = some e → ∀ (op : Operation) (err : EngineError),
      (op = .restart ∨ ∃ runtime, op = .start runtime) →
      e.Returns (h.take r) op (.failed err) → Vacant e.after.live e.after.runtime)
    ∧ (∀ (r : Nat) (e : Entry), h[r]? = some e → ∀ a, e.Returns (h.take r) .shutdown a →
      a = .done ∧ Vacant e.after.live e.after.runtime
        ∧ ∀ n ∈ History.started (h.take r), ∃ d ∈ h.take r, ∃ code, d.reaped? n = some code)
    ∧ (∀ (h₁ : History) (e₀ : Entry) (h₂ : History) (e : Entry) (h₃ : History) (a : Answer),
      h = h₁ ++ e₀ :: (h₂ ++ e :: h₃) → e₀.call? = some .shutdown →
      e₀.before.live = none → (∀ d ∈ h₂, d.answer? = none) → e.answer? = some a →
      a = .done ∧ e.after = e₀.before ∧ (∀ d ∈ e₀ :: h₂, d.actions = [])
        ∧ e.actions = [.answer .done])
  := by
  refine ⟨run.sound.settled, ?_, ?_, ?_, ?_⟩
  · intro l code session exited h' m' l' run' session' same
    have gone : l.Gone code := by
      rcases exited with ⟨idle, exited⟩ | reader
      · exact run.sound.gone idle session exited
      · exact (run.sound.session session).gone reader
    apply run.session_stays _ run' session session' same gone
    intro e k k' _ sound step gone
    exact step.gone sound gone
  · intro r e he op err starts returns
    obtain ⟨before, follows⟩ := run.at_place he
    have not_execute : ∀ code cellId runtime, op ≠ .execute code cellId runtime := by
      rcases starts with rfl | ⟨runtime, rfl⟩ <;> nofun
    rcases before.returns_vacant follows returns not_execute with ⟨vacant, -⟩ | ⟨done, -⟩
    · exact vacant
    · cases done
  · intro r e he a returns
    obtain ⟨before, follows⟩ := run.at_place he
    rcases before.returns_vacant follows returns nofun with ⟨vacant, closed⟩ | ⟨-, other⟩
    · obtain ⟨rfl, stage⟩ := closed rfl
      refine ⟨rfl, vacant, ?_⟩
      intro n started
      exact before.reaped_of_closed stage started
    · cases other rfl
  · rintro h₁ e₀ h₂ e h₃ a rfl called live unanswered answer
    rw [← List.cons_append, ← List.append_assoc] at run
    obtain ⟨before, follows⟩ := run.at_entry
    obtain ⟨closed, quiet⟩ := before.closed_of_vacant called live unanswered
    rcases follows.transition.of_closed (by rw [closed]) (by rw [closed]; exact live) with
      ⟨-, none⟩ | ⟨after, actions⟩
    · rw [Entry.answer?, none] at answer
      cases answer
    · rw [Entry.answer?, actions] at answer
      obtain rfl := Option.some.inj answer
      refine ⟨rfl, ?_, quiet, actions⟩
      obtain ⟨-, idle⟩ := Entry.call?_eq_some_iff.mp called
      rw [after, closed, ← idle]

/-- A restart fails for want of a runtime, a session is started, its process leaves, and it is shut
down. -/
def leavingMoves : List Move :=
  [.hear (.call .restart), .hear (.call (.start "python".toList)), .proceed,
    .hear (.prepared (.ok "kernel.py".toList)), .hear (.spawned (.ok 1)),
    .line 1 "\x7b\"status\": \"ready\"\x7d", .proceed, .hear (.output 1 .ended),
    .hear (.output 1 (.exited (some 3))), .hear (.output 1 .recorded), .hear (.output 1 .recorded),
    .hear (.output 1 .recorded), .hear (.output 1 .recorded), .hear (.call .shutdown), .proceed,
    .proceed]

/-- The restart leaves nothing behind, and after the shutdown the process is reaped. -/
theorem at_rest_leaving :
  ∃ m, Run {} (.played {} leavingMoves) m
    ∧ (∃ e ∈ (History.played {} leavingMoves)[0]?,
      e.Returns [] .restart (.failed .noKnownRuntime) ∧ Vacant e.after.live e.after.runtime)
    ∧ ∃ e ∈ (History.played {} leavingMoves)[15]?,
      e.Returns ((History.played {} leavingMoves).take 15) .shutdown .done
        ∧ Vacant e.after.live e.after.runtime
        ∧ ∃ d ∈ (History.played {} leavingMoves).take 15, ∃ code, d.reaped? 1 = some code
  := by
  obtain ⟨m, run⟩ := Run.played {} leavingMoves (by decide +kernel)
  obtain ⟨-, -, starts, shutdowns, -⟩ := run.at_rest
  have failed : ∃ e ∈ (History.played {} leavingMoves)[0]?,
      e.Returns [] .restart (.failed .noKnownRuntime) := by decide +kernel
  have done : ∃ e ∈ (History.played {} leavingMoves)[15]?,
      e.Returns ((History.played {} leavingMoves).take 15) .shutdown .done := by decide +kernel
  obtain ⟨e, he, failed⟩ := failed
  obtain ⟨e', he', done⟩ := done
  obtain ⟨-, vacant, reaped⟩ := shutdowns 15 e' he' _ done
  exact ⟨m, run, ⟨e, he, failed, starts 0 e he _ _ (.inl rfl) failed⟩,
    e', he', done, vacant, reaped 1 (by decide +kernel)⟩

end Session

end NotebookEngine
