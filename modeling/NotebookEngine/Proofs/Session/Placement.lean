import NotebookEngine.Proofs.Session.Departure

/-!
# The script of a session

The host puts the bundled script in place before the first session begins. However callers are served,
nothing has happened on the machine before that, and afterwards the queue knows where the script is
(`Hosted.Puts.call`), so that nothing is left of it when the session is given up
(`Hosted.Puts.giveUp_spent`).
-/

namespace NotebookEngine

namespace Session

open Host (Octets Machine Files)

variable {c : KernelConfig} {kills : List Nat} {m m' : Manager} {mv : Move} {actions : List Action}
  {q q' : Queue}

/-! ### Before a session begins -/

/-- Scripts are put in place by the host, none was yet, and no session has begun. -/
structure Manager.Early (m : Manager) : Prop where
  script : m.config.script = none
  bundled : m.bundledScript = none
  live : m.live = none
  stage : m.stage = .idle ∨ (∃ next, m.stage = .closed next)
    ∨ ∃ runtime purpose, m.stage = .preparing runtime purpose

namespace Manager.Early

theorem session (early : m.Early) :
  m.session? = none
  := by
  rcases early.stage with stage | ⟨next, stage⟩ | ⟨runtime, purpose, stage⟩ <;>
    simp only [session?, stage, early.live]

theorem finish (early : m.Early) (a : Answer) :
  (m.finish a).1.Early
  := ⟨early.script, early.bundled, early.live, .inl rfl⟩

theorem close (early : m.Early) (next : Sequel) :
  (m.close next).1.Early
  := by
  simp only [Manager.close, early.live]
  exact ⟨early.script, early.bundled, rfl, .inr (.inl ⟨next, rfl⟩)⟩

theorem take (early : m.Early) (op : Operation) :
  (m.take op).1.Early
  := by
  cases op with
  | start | shutdown => apply early.close
  | execute code cellId runtime =>
      have dead : m.isAlive = false := by rw [isAlive, early.live]; rfl
      simp only [Manager.take, dead, Bool.false_and, Bool.false_eq_true, if_false]
      apply early.close
  | restart =>
      rw [Manager.take]
      split
      · apply early.finish
      · apply early.close

theorem proceed (early : m.Early) {s : Manager.Step} (proceeds : m.proceed = some s) :
  s.1.Early
  := by
  rcases early.stage with stage | ⟨next, stage⟩ | ⟨runtime, purpose, stage⟩
  · simp only [Manager.proceed, stage, early.live, reduceCtorEq] at proceeds
  · simp only [Manager.proceed, stage, Option.some.injEq] at proceeds
    subst proceeds
    cases next with
    | answer a => apply early.finish
    | start runtime purpose =>
        simp only [follow, prepare, early.script, early.bundled]
        exact ⟨early.script, early.bundled, early.live, .inr (.inr ⟨runtime, purpose, rfl⟩)⟩
  · simp only [Manager.proceed, stage, early.live, reduceCtorEq] at proceeds

theorem queue_proceed (early : q.manager.Early) (idle : q.serving = none → q.manager.stage = .idle)
    {s : Queue × List Effect} (proceeds : q.proceed = some s) :
  s.1.manager.Early
  := by
  unfold Queue.proceed at proceeds
  split at proceeds
  case h_1 free =>
    unfold Queue.serveNext at proceeds
    split at proceeds
    case h_1 =>
      obtain rfl := Option.some.inj proceeds
      exact early
    case h_2 op _ _ _ =>
      obtain rfl := Option.some.inj proceeds
      rw [Queue.after_manager]
      simp only [receive, idle free]
      exact early.take op
    case h_3 => cases proceeds
  case h_2 =>
    obtain ⟨step, goes, rfl⟩ := Option.map_eq_some_iff.mp proceeds
    rw [Queue.after_manager]
    exact early.proceed goes

end Manager.Early

/-- The script that is in place stays so, unless another one is put in place. -/
theorem Transition.bundledScript (step : Transition m mv m' actions) :
  m'.bundledScript = m.bundledScript
    ∨ ∃ path, mv = .hear (.prepared (.ok path)) ∧ m'.bundledScript = some path
  := by
  cases step with
  | noticed =>
      left
      unfold Manager.notice
      split <;> rfl
  | closing =>
      left
      unfold Manager.close
      split
      · rfl
      · split <;> rfl
  | prepared => exact .inr ⟨_, rfl, rfl⟩
  | _ => exact .inl rfl

/-- An event of the manager is one of the queue, unless it is a call. -/
theorem QueueStep.eq_of_hear {qmv : QueueMove} {mv? : Option Move} {effects : List Effect} {e : Event}
    (step : QueueStep q qmv mv? q' effects) (moved : mv? = some (.hear e))
    (uncalled : ∀ op, e ≠ .call op := by nofun) :
  qmv = .hear e
  := by
  cases step with
  | came | told => nomatch moved
  | moved moves =>
      obtain rfl := Option.some.inj moved
      cases moves with
      | taken => exact absurd rfl (uncalled _)
      | heard => rfl

/-- What is first to be done before a session begins is to tell somebody, or to put the script in
place. -/
theorem Owes.of_early {e : Effect} {es : List Effect} {unwritten : Option Octets}
    (early : m.Early) (owes : Owes kills m.stage (e :: es) unwritten) :
  e.isDeed = false ∨ e = .act .prepare ∧ ∃ runtime purpose, m.stage = .preparing runtime purpose
  := by
  have stages := early.stage
  generalize m.stage = s at owes stages
  cases owes with
  | tell told => exact .inl (told e List.mem_cons_self)
  | prepare => exact .inr ⟨rfl, _, _, rfl⟩
  | write writes => rcases stages with rfl | ⟨_, rfl⟩ | ⟨_, _, rfl⟩ <;> nomatch writes
  | spawn | closeInput | kill => rcases stages with stage | ⟨_, stage⟩ | ⟨_, _, stage⟩ <;> nomatch stage

namespace Hosted

variable {x y : Hosted} {m₀ : Machine}

/-! ### Where the script is -/

/-- The script has not been put in place, and nothing has happened on the machine; or it is known
where it is. -/
inductive Puts (m₀ : Machine) (x : Hosted) : Prop
  | untouched (machine : x.machine = m₀) (early : x.queue.manager.Early)
  | placed (bundled : x.queue.manager.bundledScript = some x.scriptPath)

/-- Before a session begins, something is to be done or the queue goes on. -/
theorem next_of_early (sound : x.Sound c kills) (early : x.queue.manager.Early)
    (next : x.next = some y) :
  (∃ e es, x.pending = e :: es ∧ y = { x with pending := es }.perform e)
    ∨ ∃ s, x.queue.proceed = some s ∧ y = x.step s
  := by
  unfold Hosted.next at next
  split at next
  case h_1 e es pending => exact .inl ⟨e, es, pending, (Option.some.inj next).symm⟩
  case h_2 pending =>
    split at next
    case h_1 s proceeds => exact .inr ⟨s, proceeds, (Option.some.inj next).symm⟩
    case h_2 waits =>
      have serving : x.queue.serving ≠ none := by
        intro free
        simp only [free, Option.isNone_none, if_true, reduceCtorEq] at next
      rw [x.queue.proceed_of_busy serving, Option.map_eq_none_iff] at waits
      rcases early.stage with stage | ⟨sequel, stage⟩ | ⟨runtime, purpose, stage⟩
      · exact absurd (sound.tracks.free_iff.mpr stage) serving
      · simp only [Manager.proceed, stage, reduceCtorEq] at waits
      -- While the script is prepared something is to be done, so that the queue need not go on.
      · exfalso
        have owes := sound.owes
        rw [pending, stage] at owes
        generalize x.unwritten = rest at owes
        cases owes with
        | nothing bare => cases bare
        | writing writes => cases writes

/-- A script that is in place stays where it is. -/
theorem Course.placed (course : x.Course y)
    (bundled : x.queue.manager.bundledScript = some x.scriptPath)
    (path : y.scriptPath = x.scriptPath) :
  y.Puts m₀
  := by
  apply Puts.placed
  rw [path]
  rcases course.queue with same | ⟨mv, mv?, effects, step, -, script⟩
  · rw [same]
    exact bundled
  · rcases step.manager with ⟨-, same⟩ | ⟨mv₀, moved, possible⟩
    · rw [same]
      exact bundled
    · rcases (transition_of_move? possible).bundledScript with same | ⟨put, rfl, new⟩
      · rw [same]
        exact bundled
      · rw [new, script put (step.eq_of_hear moved)]

/-- What is done next, it is known where the script is. -/
theorem Puts.next (puts : x.Puts m₀) (sound : x.Sound c kills) (course : x.Course y)
    (path : y.scriptPath = x.scriptPath) (next : x.next = some y) :
  y.Puts m₀
  := by
  cases puts with
  | untouched machine early =>
      rcases next_of_early sound early next with ⟨e, es, pending, rfl⟩ | ⟨s, proceeds, rfl⟩
      · have owes := sound.owes
        rw [pending] at owes
        rcases owes.of_early early with still | ⟨rfl, runtime, purpose, stage⟩
        · cases e with
          | outcome => exact .untouched machine early
          | act a =>
              cases a with
              | answer => exact .untouched machine early
              | _ => nomatch still
        · unfold Hosted.perform Hosted.prepare
          dsimp only
          split
          case h_1 f _ =>
            refine .untouched machine ?_
            change (x.queue.after (x.queue.manager.receive (.prepared (.error f)))).1.manager.Early
            rw [Queue.after_manager]
            simp only [Manager.receive, stage]
            exact early.finish _
          case h_2 =>
            apply Puts.placed
            change (x.queue.after (x.queue.manager.receive (.prepared (.ok x.scriptPath)))).1.manager.bundledScript
              = some x.scriptPath
            rw [Queue.after_manager]
            simp only [Manager.receive, stage]
            rfl
      · exact .untouched machine (early.queue_proceed sound.tracks.free_iff.mp proceeds)
  | placed bundled => exact course.placed bundled path

/-- Where processes are started and where the script is put stays the same. -/
theorem place_of_next (next : x.next = some y) :
  y.site = x.site ∧ y.scriptPath = x.scriptPath
  := by
  cases goes_of_next next with
  | @performed e es =>
      cases e with
      | outcome => exact ⟨rfl, rfl⟩
      | act a =>
          cases a with
          | prepare =>
              unfold Hosted.perform Hosted.prepare
              dsimp only
              split <;> exact ⟨rfl, rfl⟩
          | spawn =>
              unfold Hosted.perform Hosted.spawn
              dsimp only
              split <;> exact ⟨rfl, rfl⟩
          | write | answer => exact ⟨rfl, rfl⟩
          | closeInput | kill =>
              unfold Hosted.perform
              dsimp only
              split <;> exact ⟨rfl, rfl⟩
  | poured _ pours =>
      cases (pours_of_pour? pours).2 with
      | ended | full => exact ⟨rfl, rfl⟩
  | proceeded | told | expired | passed => exact ⟨rfl, rfl⟩

/-- Nothing has happened on the machine before a script is put in place. -/
theorem Blank.puts (blank : x.Blank c) (script : c.script = none) :
  x.Puts x.machine
  := by
  refine .untouched rfl ?_
  rw [blank.queue]
  exact ⟨script, rfl, rfl, .inl rfl⟩

/-- When somebody has come and been served, it is known where the script is. -/
theorem Puts.call {d : Demand} {o : Outcome} (puts : x.Puts m₀) (run : HostedRun c kills x)
    (called : x.call d = some (o, y)) :
  y.Puts m₀ ∧ y.site = x.site ∧ y.scriptPath = x.scriptPath
  := by
  have submitted : Puts m₀ ({ x with outcomes := [] }.submit 0 d) := by
    cases puts with
    | untouched machine early => exact .untouched machine early
    | placed bundled => exact .placed bundled
  refine (call_keeps (P := fun y => y.Puts m₀ ∧ y.site = x.site ∧ y.scriptPath = x.scriptPath)
    run called ?_ ⟨submitted, rfl, rfl⟩).1
  rintro z y kills run ⟨puts, site, path⟩ course (next | ⟨n, noticed, rfl⟩)
  · obtain ⟨site', path'⟩ := place_of_next next
    exact ⟨puts.next run.sound course path' next, site'.trans site, path'.trans path⟩
  · refine ⟨?_, site, path⟩
    cases puts with
    | untouched machine early =>
        simp only [noticed?, early.session, reduceCtorEq] at noticed
    | placed bundled => exact course.placed bundled rfl

end Hosted

end Session

end NotebookEngine
