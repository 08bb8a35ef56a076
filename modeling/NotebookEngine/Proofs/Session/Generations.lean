import NotebookEngine.Proofs.Session.Correlation
import NotebookEngine.Proofs.Session.Exit

/-!
# One process at a time

A process is asked for by an action (`Entry.spawn?`) and comes of the answer to it
(`Entry.started?`). `Generation` ties the two: the process of the session that is held is what came
of the last action, which named its runtime. So every process that was started before is reaped, with
an exit that is recorded to its end, by the time another one is asked for.

Requests go to the process of the session that is held, which has announced itself
(`Entry.Begins.sends`). An execution that finds its session alive and with its runtime keeps it until
it is answered (`Manager.Keeps`), and one that runs out of time leaves it as it was
(`Run.timed_out`).
-/

namespace NotebookEngine

namespace Session

variable {m m' : Manager} {mv : Move} {actions : List Action} {c : KernelConfig} {h : History}
  {e : Entry} {l : Live} {n : Nat} {path : Text} {purpose : Purpose}

/-- The runtime of the process that is asked for among actions. -/
def spawnAmong? : List Action → Option Text
  | [] => none
  | .spawn runtime _ :: _ => some runtime
  | _ :: as => spawnAmong? as

/-- The runtime of the process that is asked for. -/
def Entry.spawn? (e : Entry) : Option Text :=
  spawnAmong? e.actions

/-- The entry asks for no process, and none comes of it. -/
structure Entry.Barren (e : Entry) : Prop where
  spawn : e.spawn? = none
  started : e.started? = none

/-- The process was asked for with a runtime and has been started, and these are the entries since;
no other process was asked for meanwhile. -/
structure Generation (h : History) (n : Nat) (runtime : Text) (since : History) : Prop where
  started : ∃ (h₁ : History) (a : Entry) (h₂ : History) (s : Entry),
    h = h₁ ++ a :: (h₂ ++ s :: since) ∧ a.spawn? = some runtime ∧ (∀ e ∈ h₂, e.Barren)
      ∧ s.started? = some n
  barren : ∀ e ∈ since, e.Barren

/-! ### Processes that are asked for -/

/-- Closing a session asks for no process. -/
theorem Manager.close_spawn (m : Manager) (next : Sequel) :
  spawnAmong? (m.close next).2 = none
  := by
  unfold close
  split
  · rfl
  · split <;> rfl

/-- A process is asked for when the session is closed, or when the script is in place. -/
theorem Transition.asks (step : Transition m mv m' actions)
    (spawn : spawnAmong? actions = some path) :
  ∃ purpose, m'.stage = .spawning path purpose
    ∧ (m.stage = .closed (.start path purpose) ∨ m.stage = .preparing path purpose)
  := by
  cases step with
  | spawning own stage =>
      obtain rfl := Option.some.inj spawn
      exact ⟨_, rfl, .inl stage⟩
  | prepared stage =>
      obtain rfl := Option.some.inj spawn
      exact ⟨_, rfl, .inr stage⟩
  | closing why => cases (m.close_spawn _).symm.trans spawn
  | killed =>
      split at spawn <;> cases spawn
  | _ => cases spawn

/-- A process is being started because it was before, or because it is asked for. -/
theorem Transition.starting (step : Transition m mv m' actions)
    (stage : m'.stage = .spawning path purpose) :
  (m.stage = .spawning path purpose ∧ (Entry.mk m mv m' actions).Barren)
    ∨ spawnAmong? actions = some path
  := by
  cases step with
  | ignored call spawned output =>
      refine .inl ⟨stage, rfl, ?_⟩
      apply Entry.started?_of_unasked
      intro n runtime purpose move
      apply spawned _ _ _ (Move.hear.inj move)
  | noticed =>
      refine .inl ⟨?_, rfl, rfl⟩
      cases before : m.stage <;> simp_all [Manager.notice]
  | spawning own before =>
      obtain ⟨rfl, rfl⟩ := Stage.spawning.inj stage
      exact .inr rfl
  | prepared before =>
      obtain ⟨rfl, rfl⟩ := Stage.spawning.inj stage
      exact .inr rfl
  | @closing _ next why =>
      rcases m.close_stage next with closed | ⟨_, closed | closed⟩ <;> cases closed.symm.trans stage
  | _ => cases stage

/-- A process that is being started was asked for, and nothing was since. -/
theorem Run.asked (run : Run c h m) (stage : m.stage = .spawning path purpose) :
  ∃ (h₁ : History) (a : Entry) (h₂ : History),
    h = h₁ ++ a :: h₂ ∧ a.spawn? = some path ∧ ∀ e ∈ h₂, e.Barren
  := by
  induction run with
  | new => cases stage
  | @move h e run follows ih =>
      rcases follows.transition.starting stage with ⟨before, barren⟩ | spawn
      · obtain ⟨h₁, a, h₂, rfl, spawn, others⟩ := ih before
        refine ⟨h₁, a, h₂ ++ [e], by simp, spawn, ?_⟩
        intro d hd
        rcases List.mem_append.mp hd with hd | hd
        · exact others d hd
        · rw [List.mem_singleton.mp hd]
          exact barren
      · exact ⟨h, e, [], rfl, spawn, List.forall_mem_nil _⟩

/-- While the manager listens to a process, none is asked for and none is started. -/
theorem Entry.Follows.barren (run : Run c h e.before) (follows : e.Follows h)
    (session : e.before.session? = some l) :
  e.Barren
  := by
  constructor
  · cases spawn : e.spawn? with
    | none => rfl
    | some runtime =>
        obtain ⟨purpose, -, stage⟩ := follows.transition.asks spawn
        have vacant : Vacant e.before.live e.before.runtime := by
          rcases stage with stage | stage <;> exact run.sound.promises stage
        have silent : e.before.session? = e.before.live := by
          rcases stage with stage | stage <;> simp only [Manager.session?, stage]
        cases (silent.trans vacant.live).symm.trans session
  · have step := follows.transition.session run.sound
    rw [session] at step
    generalize e.after.session? = s at step
    cases step with
    | stays started => exact started
    | left started => exact started

/-- A process is started with the runtime of the stage, as the session that is held from then on. -/
theorem Entry.Follows.started (follows : e.Follows h) (started : e.started? = some n) :
  ∃ runtime purpose, e.before.stage = .spawning runtime purpose
    ∧ e.after.session? = some { runtime, process := n }
  := by
  unfold Entry.started? at started
  split at started
  case h_1 k runtime purpose move stage =>
    obtain rfl := Option.some.inj started
    have possible := follows.possible
    simp only [move, Manager.move?, Manager.receive, stage, Manager.goTo,
      Manager.goDoing] at possible
    obtain ⟨after, -⟩ := Prod.mk.inj (Option.some.inj possible)
    refine ⟨runtime, purpose, stage, ?_⟩
    rw [← after]
    rfl
  case h_2 => cases started

/-! ### Sessions and their processes -/

theorem Live.Step.runtime {l' : Live} (step : l.Step e l') :
  l'.runtime = l.runtime
  := by
  cases step with
  | heard => apply Live.hear_runtime
  | _ => rfl

/-- A session has announced itself by a line of its process, if it had not before. -/
theorem Live.Step.greets {l' : Live} (step : l.Step e l') (done : l'.slot.handshake = .done) :
  l.slot.handshake = .done ∨ e.Greets l.process
  := by
  cases step with
  | heard move =>
      rcases Live.greets_of_hear done with before | ⟨rfl, octets, rfl, ready⟩
      · exact .inl before
      · exact .inr ⟨octets, move, ready⟩
  | same | stopped | begun | abandoned => exact .inl done

/-- The process of the session was asked for with its runtime, and a session that has announced
itself has done so since its process was started. -/
theorem Run.generation (run : Run c h m) (session : m.session? = some l) :
  ∃ since, Generation h l.process l.runtime since
    ∧ (l.slot.handshake = .done → ∃ g ∈ since, g.Greets l.process)
  := by
  induction run generalizing l with
  | new => cases session
  | @move h e run follows ih =>
      have step := follows.transition.session run.sound
      rw [session] at step
      generalize hs : e.before.session? = s at step
      cases step with
      | started started =>
          obtain ⟨path, purpose, stage, new⟩ := follows.started started
          rw [session] at new
          obtain ⟨rfl, -⟩ := Live.mk.inj (Option.some.inj new)
          obtain ⟨h₁, a, h₂, rfl, spawn, others⟩ := run.asked stage
          refine ⟨[], ⟨⟨h₁, a, h₂, e, by simp, spawn, others, started⟩, List.forall_mem_nil _⟩, ?_⟩
          nofun
      | @stays k _ started step =>
          obtain ⟨since, ⟨⟨h₁, a, h₂, s, rfl, spawn, others, start⟩, barren⟩, greeted⟩ := ih hs
          have now := follows.barren run hs
          refine ⟨since ++ [e], ⟨⟨h₁, a, h₂, s, by simp, ?_, others, ?_⟩, ?_⟩, ?_⟩
          · rw [step.runtime]
            exact spawn
          · rw [step.process]
            exact start
          · intro d hd
            rcases List.mem_append.mp hd with hd | hd
            · exact barren d hd
            · rw [List.mem_singleton.mp hd]
              exact now
          · intro done
            rw [step.process]
            rcases step.greets done with before | greets
            · obtain ⟨g, hg, greets⟩ := greeted before
              exact ⟨g, List.mem_append_left _ hg, greets⟩
            · exact ⟨e, by simp, greets⟩

/-! ### Exits before the next process -/

/-- The last part of an exit is recorded by the entry after which none is left. -/
theorem Reader.Step.recorded_of_isDone {r r' : Reader} (step : r.Step e n r')
    (done : r'.isDone = true) :
  r.isDone = true ∨ ∃ code, e.recorded? n = some code
  := by
  cases step with
  | same => exact .inl done
  | stopped => cases done
  | reaped => cases done
  | @recorded code p left _ recorded =>
      cases left with
      | nil => exact .inr ⟨code, recorded⟩
      | cons p left => cases done

/-- An exit that is recorded to its end in the session was recorded by an entry. -/
theorem Run.recorded_of_isDone (run : Run c h m) (session : m.session? = some l)
    (done : l.reader.isDone = true) :
  ∃ e ∈ h, ∃ code, e.recorded? l.process = some code
  := by
  induction run generalizing l with
  | new => cases session
  | @move h e run follows ih =>
      have step := follows.transition.session run.sound
      rw [session] at step
      generalize hs : e.before.session? = s at step
      cases step with
      | started => cases done
      | @stays k _ started step =>
          rw [step.process]
          rcases (step.reader hs).recorded_of_isDone done with before | ⟨code, recorded⟩
          · obtain ⟨d, hd, recorded⟩ := ih hs before
            exact ⟨d, List.mem_append_left _ hd, recorded⟩
          · exact ⟨e, by simp, code, recorded⟩

/-- The exit of a process that was started is recorded to its end, or the manager listens to it. -/
theorem Run.recorded_or_session (run : Run c h m) (started : n ∈ h.started) :
  (∃ e ∈ h, ∃ code, e.recorded? n = some code) ∨ ∃ l, m.session? = some l ∧ l.process = n
  := by
  induction run with
  | new => cases started
  | @move h e run follows ih =>
      have step := follows.transition.session run.sound
      rw [History.started_concat, List.mem_append] at started
      -- An exit that was recorded before stays so.
      have mono : (∃ d ∈ h, ∃ code, d.recorded? n = some code) →
          ∃ d ∈ h ++ [e], ∃ code, d.recorded? n = some code := by
        rintro ⟨d, hd, recorded⟩
        exact ⟨d, List.mem_append_left _ hd, recorded⟩
      generalize hs : e.before.session? = s, hs' : e.after.session? = s' at step
      cases step with
      | absent quiet =>
          simp only [quiet, Option.toList_none, List.not_mem_nil, or_false] at started
          rcases ih started with recorded | ⟨l, session, -⟩
          · exact .inl (mono recorded)
          · cases hs.symm.trans session
      | @started k runtime spawned =>
          rcases started with started | started
          · rcases ih started with recorded | ⟨l, session, -⟩
            · exact .inl (mono recorded)
            · cases hs.symm.trans session
          · simp only [spawned, Option.toList_some, List.mem_singleton] at started
            exact .inr ⟨_, rfl, started.symm⟩
      | @stays l l' quiet step =>
          simp only [quiet, Option.toList_none, List.not_mem_nil, or_false] at started
          rcases ih started with recorded | ⟨k, session, same⟩
          · exact .inl (mono recorded)
          · obtain rfl := Option.some.inj (hs.symm.trans session)
            exact .inr ⟨l', rfl, step.process.trans same⟩
      | @left l quiet done =>
          simp only [quiet, Option.toList_none, List.not_mem_nil, or_false] at started
          rcases ih started with recorded | ⟨k, session, rfl⟩
          · exact .inl (mono recorded)
          · obtain rfl := Option.some.inj (hs.symm.trans session)
            exact .inl (mono (run.recorded_of_isDone hs done))

/-- When a process is asked for or started, every one before is reaped and its exit recorded to its
end. -/
theorem Run.settled_before (run : Run c h e.before) (follows : e.Follows h) (fertile : ¬ e.Barren)
    (started : n ∈ h.started) :
  (∃ d ∈ h, ∃ code, d.reaped? n = some code) ∧ ∃ d ∈ h, ∃ code, d.recorded? n = some code
  := by
  have deserted : e.before.session? = none := by
    cases session : e.before.session? with
    | none => rfl
    | some l => cases fertile (follows.barren run session)
  constructor
  · rcases run.reaped started with reaped | ⟨l, session, -⟩
    · exact reaped
    · cases deserted.symm.trans session
  · rcases run.recorded_or_session started with recorded | ⟨l, session, -⟩
    · exact recorded
    · cases deserted.symm.trans session

/-! ### Requests -/

/-- The entry begins the call of the execution under way: it writes the request to the process `n`,
which was started with the runtime of the execution, by whatever spelling of its path, has announced
itself since, and is not known to have left. -/
structure Entry.Sends (e : Entry) (h : History) (n : Nat) (code cellId path : Text) : Prop where
  operation : h.operation? = some (.execute code cellId path)
  request : e.request? n = some cellId
  actions : e.actions = [.write (Request.execute code cellId).line]
  announced : ∃ known, Text.SamePath known path ∧ ∃ since, Generation h n known since
    ∧ ∃ g ∈ since, g.Greets n
  running : ∃ l ∈ e.before.live, l.process = n ∧ l.slot.exited = none

/-- A line is written to ask a process to leave, or to begin a call. -/
theorem Transition.writes {line : Text} (step : Transition m mv m' actions)
    (writes : .write line ∈ actions) :
  (line = Request.shutdown.line ∧ ∃ l next, m.live = some l ∧ m'.stage = .asking l next)
    ∨ ∃ code cellId l, (Entry.mk m mv m' actions).Begins code cellId l
      ∧ line = (Request.execute code cellId).line
  := by
  cases step with
  | @closing _ next why =>
      left
      revert writes
      unfold Manager.close
      split
      case h_1 => nofun
      case h_2 l live =>
        split
        · simp [Manager.goDoing]
        · simp [Manager.goDoing, live]
  | begun own stage live exited =>
      right
      obtain rfl := Action.write.inj (List.mem_singleton.mp writes)
      exact ⟨_, _, _, ⟨own, stage, live, exited, rfl, rfl⟩, rfl⟩
  | killed => split at writes <;> simp at writes
  | _ => simp at writes

/-- A call is begun in a session with the runtime of the execution, which has announced itself. -/
theorem Entry.Begins.sends {code cellId : Text} (begins : e.Begins code cellId l)
    (run : Run c h e.before) :
  ∃ path, e.Sends h l.process code cellId path
  := by
  have serves := run.serves
  have promises := run.sound.promises begins.stage
  rw [begins.stage] at serves
  obtain ⟨_, known, path, same, operation⟩ := serves
  obtain ⟨k, holds, done, -⟩ := promises
  obtain rfl := Option.some.inj (holds.live.symm.trans begins.live)
  obtain rfl := Option.some.inj (holds.runtime.symm.trans known)
  have session : e.before.session? = some k := by
    simp only [Manager.session?, begins.stage]
    exact begins.live
  obtain ⟨since, generation, greeted⟩ := run.generation session
  refine ⟨path, operation, ?_, begins.actions,
    ⟨k.runtime, same, since, generation, greeted done⟩, k, begins.live, rfl, begins.exited⟩
  simp [Entry.request?, begins.stage, begins.live, begins.after]

/-- Between two requests something is answered. -/
theorem Run.answered_between {h₁ h₂ h₃ : History} {e' : Entry} {n' : Nat} {id id' : Text}
    (run : Run c (h₁ ++ e :: (h₂ ++ e' :: h₃)) m) (request : e.request? n = some id)
    (request' : e'.request? n' = some id') :
  ∃ d ∈ h₂, d.answer?.isSome = true
  := by
  by_contra unanswered
  rw [← List.cons_append, ← List.append_assoc] at run
  obtain ⟨before, follows⟩ := run.at_entry
  have quiet : ∀ d ∈ h₂, d.answer? = none := by
    intro d hd
    cases answer : d.answer? with
    | none => rfl
    | some a => exact absurd ⟨d, hd, by rw [answer]; rfl⟩ unanswered
  obtain ⟨l, -, under⟩ := before.underway_of_request request quiet
  obtain ⟨code, k, -, begins⟩ := follows.begins request'
  rcases under.stage with stage | stage <;> cases stage.symm.trans begins.stage

/-! ### Sessions that are kept -/

/-- The session of a process is held with a runtime. -/
def Manager.Has (m : Manager) (n : Nat) (path : Text) : Prop :=
  ∃ l, m.live = some l ∧ l.process = n ∧ l.runtime = path

/-- An execution is under way in a session that it found alive. -/
structure Manager.Keeps (m : Manager) (n : Nat) (code cellId path : Text) : Prop where
  stage : m.stage = .calling code cellId ∨ m.stage = .sending ∨ m.stage = .awaiting
  has : m.Has n path

/-- The entry leaves the process alone but for the request of a call. -/
structure Entry.Spares (e : Entry) (code cellId : Text) : Prop where
  barren : e.Barren
  actions : ∀ a ∈ e.actions, a = .write (Request.execute code cellId).line ∨ ∃ x, a = .answer x

/-- What processes do leaves the session that is held with its process and its runtime. -/
theorem Manager.Has.notice (has : m.Has n path) (isOpen : m.stage.isOpen = true) (k : Nat)
    (o : Output) :
  (m.notice k o).Has n path
  := by
  obtain ⟨l, live, rfl, rfl⟩ := has
  rw [notice_of_isOpen isOpen live]
  exact ⟨_, rfl, l.hear_process k o, l.hear_runtime k o⟩

/-- An execution leaves the process of its session alone, and keeps the session until it is answered
and beyond. -/
theorem Manager.Keeps.step {code cellId : Text} (keeps : m.Keeps n code cellId path)
    (step : Transition m mv m' actions) :
  (Entry.mk m mv m' actions).Spares code cellId ∧ m'.Has n path
    ∧ (answerAmong? actions = none → m'.Keeps n code cellId path)
  := by
  obtain ⟨stage, has⟩ := keeps
  have unasked : ∀ path purpose, m.stage ≠ .spawning path purpose := by
    intro path purpose spawning
    rcases stage with stage | stage | stage <;> cases stage.symm.trans spawning
  have started : (Entry.mk m mv m' actions).started? = none :=
    Entry.started?_of_unasked fun _ path purpose _ => unasked path purpose
  cases step with
  | ignored => exact ⟨⟨⟨rfl, started⟩, List.forall_mem_nil _⟩, has, fun _ => ⟨stage, has⟩⟩
  | @noticed k o =>
      have isOpen : m.stage.isOpen = true := by
        rcases stage with stage | stage | stage <;> simp only [stage, Stage.isOpen]
      have has' := has.notice isOpen k o
      refine ⟨⟨⟨rfl, rfl⟩, List.forall_mem_nil _⟩, has', fun _ => ⟨?_, has'⟩⟩
      obtain ⟨l, live, -⟩ := has
      rw [notice_of_isOpen isOpen live]
      exact stage
  | @begun _ code' cellId' _ _ calling live =>
      obtain ⟨l, live', process, known⟩ := has
      obtain rfl := Option.some.inj (live.symm.trans live')
      obtain ⟨rfl, rfl⟩ : code = code' ∧ cellId = cellId' := by
        rcases stage with stage | stage | stage
        · exact Stage.calling.inj (stage.symm.trans calling)
        · cases stage.symm.trans calling
        · cases stage.symm.trans calling
      exact ⟨⟨⟨rfl, started⟩, by simp⟩, ⟨_, rfl, process, known⟩,
        fun _ => ⟨.inr (.inl rfl), _, rfl, process, known⟩⟩
  | sent => exact ⟨⟨⟨rfl, started⟩, List.forall_mem_nil _⟩, has, fun _ => ⟨.inr (.inr rfl), has⟩⟩
  | ended _ live =>
      obtain ⟨l, live', process, known⟩ := has
      obtain rfl := Option.some.inj (live.symm.trans live')
      exact ⟨⟨⟨rfl, started⟩, by simp⟩, ⟨_, rfl, process, known⟩, by rintro ⟨⟩⟩
  | finished why =>
      exact ⟨⟨⟨rfl, started⟩, by simp⟩, has, by rintro ⟨⟩⟩
  | closing why => rcases stage with stage | stage | stage <;> cases why <;> simp_all
  | left _ other => rcases stage with stage | stage | stage <;> simp_all
  | _ => rcases stage with stage | stage | stage <;> simp_all

/-- An execution that finds its session alive and with its runtime begins to keep it. -/
theorem Entry.Follows.keeps {code cellId wanted : Text} (follows : e.Follows h)
    (sound : e.before.Sound) (called : e.call? = some (.execute code cellId wanted))
    (alive : e.before.isAlive = true) (known : e.before.runtime = some path)
    (fits : Text.SamePath path wanted) :
  ∃ l, e.before.live = some l ∧ e.Spares code cellId ∧ e.answer? = none
    ∧ e.after.Keeps l.process code cellId path
  := by
  obtain ⟨move, idle⟩ := Entry.call?_eq_some_iff.mp called
  have possible := follows.possible
  have knows : e.before.knows wanted = true := Manager.knows_iff.mpr ⟨path, known, fits⟩
  simp only [move, Manager.move?, Manager.receive, idle, Manager.take, alive, knows, Bool.and_self,
    if_true, Manager.goTo, Manager.goDoing] at possible
  obtain ⟨after, actions⟩ := Prod.mk.inj (Option.some.inj possible)
  have started : e.started? = none := by simp only [Entry.started?, move]
  rcases sound.held with vacant | ⟨l, holds⟩
  · cases vacant.runtime.symm.trans known
  · obtain rfl := Option.some.inj (holds.runtime.symm.trans known)
    refine ⟨l, holds.live, ⟨⟨?_, started⟩, ?_⟩, ?_, ⟨?_, l, ?_, rfl, rfl⟩⟩
    · rw [Entry.spawn?, ← actions, spawnAmong?]
    · rw [← actions]
      exact List.forall_mem_nil _
    · rw [Entry.answer?, ← actions, answerAmong?]
    · rw [← after]
      exact .inl rfl
    · rw [← after]
      exact holds.live

/-- Until an execution that found its session alive is answered, it keeps it. -/
theorem Run.keeps {code cellId wanted : Text} {h₁ h₂ : History} (run : Run c (h₁ ++ e :: h₂) m)
    (called : e.call? = some (.execute code cellId wanted)) (alive : e.before.isAlive = true)
    (known : e.before.runtime = some path) (fits : Text.SamePath path wanted)
    (unanswered : ∀ d ∈ h₂, d.answer? = none) :
  ∃ l, e.before.live = some l ∧ m.Keeps l.process code cellId path
    ∧ ∀ d ∈ e :: h₂, d.Spares code cellId
  := by
  induction h₂ using List.reverseRecOn generalizing m with
  | nil =>
      obtain ⟨before, follows, rfl⟩ := Run.concat_iff.mp run
      obtain ⟨l, live, spares, -, keeps⟩ := follows.keeps before.sound called alive known fits
      refine ⟨l, live, keeps, ?_⟩
      intro d hd
      rw [List.mem_singleton.mp hd]
      exact spares
  | append_singleton h₂ d ih =>
      rw [← List.cons_append, ← List.append_assoc] at run
      obtain ⟨before, follows, rfl⟩ := Run.concat_iff.mp run
      obtain ⟨l, live, keeps, spared⟩ := ih before fun d hd => unanswered d (List.mem_append_left _ hd)
      obtain ⟨spares, -, still⟩ := keeps.step follows.transition
      refine ⟨l, live, still (unanswered d (by simp)), ?_⟩
      intro k hk
      rw [← List.cons_append, List.mem_append] at hk
      rcases hk with hk | hk
      · exact spared k hk
      · rw [List.mem_singleton.mp hk]
        exact spares

/-- An execution that found its session alive keeps it, its answer included. -/
theorem Run.kept {code cellId wanted : Text} {h₁ h₂ : History} (run : Run c (h₁ ++ e :: h₂) m)
    (called : e.call? = some (.execute code cellId wanted)) (alive : e.before.isAlive = true)
    (known : e.before.runtime = some path) (fits : Text.SamePath path wanted)
    (unanswered : ∀ d ∈ h₂.dropLast, d.answer? = none) :
  ∃ l, e.before.live = some l ∧ m.Has l.process path ∧ ∀ d ∈ e :: h₂, d.Spares code cellId
  := by
  rcases List.eq_nil_or_concat h₂ with rfl | ⟨mid, d, rfl⟩
  · obtain ⟨l, live, keeps, spares⟩ := run.keeps called alive known fits unanswered
    exact ⟨l, live, keeps.has, spares⟩
  · rw [List.concat_eq_append] at run unanswered ⊢
    rw [List.dropLast_concat] at unanswered
    rw [← List.cons_append, ← List.append_assoc] at run
    obtain ⟨before, follows, rfl⟩ := Run.concat_iff.mp run
    obtain ⟨l, live, keeps, spared⟩ := before.keeps called alive known fits unanswered
    obtain ⟨spares, has, -⟩ := keeps.step follows.transition
    refine ⟨l, live, has, ?_⟩
    intro k hk
    rw [← List.cons_append, List.mem_append] at hk
    rcases hk with hk | hk
    · exact spared k hk
    · rw [List.mem_singleton.mp hk]
      exact spares

/-! ### Sessions after a timeout -/

/-- What follows when the session is closed, in the stages in which it is. -/
def Stage.sequel? : Stage → Option Sequel
  | .closed next | .asking _ next | .leaving _ next | .killed _ next => some next
  | _ => none

/-- What follows a session that is being closed is what was meant to when the closing began. -/
theorem Transition.sequel {next : Sequel} (step : Transition m mv m' actions)
    (sequel : m'.stage.sequel? = some next) :
  m.stage.sequel? = some next ∨ Closes m mv next
  := by
  cases step with
  | ignored => exact .inl sequel
  | noticed =>
      left
      cases stage : m.stage <;> simp_all [Manager.notice, Stage.sequel?]
  | @closing _ next' why =>
      have same : next' = next := by
        rcases m.close_stage next' with stage | ⟨_, stage | stage⟩ <;>
          simpa [stage, Stage.sequel?] using sequel
      exact .inr (same ▸ why)
  | left _ stage =>
      obtain rfl := Option.some.inj sequel
      rcases stage with stage | stage <;> exact .inl (by rw [stage]; rfl)
  | asked stage | killed stage =>
      obtain rfl := Option.some.inj sequel
      exact .inl (by rw [stage]; rfl)
  | _ => cases sequel

/-- No session is closed because a call ran out of time. -/
theorem Closes.ne_timeout {next : Sequel} (why : Closes m mv next) (t : Nat) :
  next ≠ .answer (.failed (.executionTimeout t))
  := by
  cases why <;> nofun

theorem Run.sequel_ne_timeout (run : Run c h m) (t : Nat) :
  m.stage.sequel? ≠ some (.answer (.failed (.executionTimeout t)))
  := by
  induction run with
  | new => nofun
  | move run follows ih =>
      intro sequel
      rcases follows.transition.sequel sequel with before | why
      · exact ih before
      · exact why.ne_timeout t rfl

/-- An operation that has no call to end only ends as one that ran out of time if its session was
closed for that. -/
theorem Finishes.closed_of_timeout {t : Nat}
    (why : Finishes m mv (.failed (.executionTimeout t))) :
  m.stage = .closed (.answer (.failed (.executionTimeout t)))
  := by
  cases why with
  | closed _ stage => exact stage

/-- A call that runs out of time is given up, and nothing else is done to its session. -/
theorem Run.timed_out {t : Nat} (run : Run c h e.before) (follows : e.Follows h)
    (answer : e.answer? = some (.failed (.executionTimeout t))) :
  ∃ l, e.before.live = some l ∧ e.before.runtime = some l.runtime
    ∧ e.after = { e.before with live := some { l with slot := l.slot.abandon }, stage := .idle }
  := by
  rcases follows.answers answer with ⟨why, -⟩ | ⟨l, stage, live, -, after⟩
  · refine absurd ?_ (run.sequel_ne_timeout t)
    rw [why.closed_of_timeout]
    rfl
  · obtain ⟨k, holds, -⟩ := run.sound.promises stage
    obtain rfl := Option.some.inj (live.symm.trans holds.live)
    exact ⟨l, live, holds.runtime, after⟩

/-- A session that is held while no operation is under way stays until one is taken up. -/
theorem Run.has_until_call {h₂ : History} (run : Run c h m) (run' : Run c (h ++ h₂) m')
    (idle : m.stage = .idle) (has : m.Has n path) (uncalled : ∀ d ∈ h₂, d.call? = none) :
  m'.stage = .idle ∧ m'.Has n path
  := by
  induction h₂ using List.reverseRecOn generalizing m' with
  | nil =>
      rw [List.append_nil] at run'
      obtain rfl := run.unique run'
      exact ⟨idle, has⟩
  | append_singleton h₂ d ih =>
      rw [← List.append_assoc] at run'
      obtain ⟨before, follows, rfl⟩ := Run.concat_iff.mp run'
      obtain ⟨idle', has'⟩ := ih before fun k hk => uncalled k (List.mem_append_left _ hk)
      have uncalled := uncalled d (by simp)
      obtain ⟨m₀, mv, m₁, actions⟩ := d
      dsimp only at idle' has' ⊢
      have step : Transition m₀ mv m₁ actions := follows.transition
      cases step with
      | ignored => exact ⟨idle', has'⟩
      | @noticed k o =>
          have isOpen : m₀.stage.isOpen = true := by simp only [idle', Stage.isOpen]
          refine ⟨?_, has'.notice isOpen k o⟩
          simp only [Manager.notice, idle']
      | closing why => cases why <;> simp_all [Entry.call?]
      | finished why => cases why <;> simp_all [Entry.call?]
      | kept => simp_all [Entry.call?]
      | left _ other => simp_all
      | _ => simp_all

/-! ### One process at a time -/

/-- Of the processes of any run:
of those that were started, at most one is not reaped;
when one is asked for or started, every one before is reaped and its exit recorded to its end;
every line that is written asks the process of a session that is being closed to leave, or is the
request of the execution under way, one line, and goes to a process that was asked for with the
runtime of the execution and has announced itself since;
between two requests something is answered, so no execution makes two;
an execution that finds its session alive and with its runtime neither asks for a process nor ends
the one it has, and leaves it to the next;
and a call that runs out of time leaves the session as alive as it was, to the next execution. -/
theorem Run.one_process (run : Run c h m) :
  (∀ n ∈ h.started, ∀ n' ∈ h.started, (∀ e ∈ h, e.reaped? n = none) →
      (∀ e ∈ h, e.reaped? n' = none) → n = n')
    ∧ (∀ (h₁ : History) (e : Entry) (h₂ : History), h = h₁ ++ e :: h₂ → ¬ e.Barren →
      ∀ n ∈ h₁.started, (∃ d ∈ h₁, ∃ code, d.reaped? n = some code)
        ∧ ∃ d ∈ h₁, ∃ code, d.recorded? n = some code)
    ∧ (∀ (h₁ : History) (e : Entry) (h₂ : History) (line : Text), h = h₁ ++ e :: h₂ →
      .write line ∈ e.actions →
      (line = Request.shutdown.line
          ∧ ∃ l next, e.before.live = some l ∧ e.after.stage = .asking l next)
        ∨ ∃ n code cellId path, e.Sends h₁ n code cellId path
          ∧ line = (Request.execute code cellId).line
          ∧ ∃ body, line = body ++ ['\n'] ∧ '\n' ∉ body)
    ∧ (∀ (h₁ : History) (e : Entry) (h₂ : History) (e' : Entry) (h₃ : History) (n n' : Nat)
      (id id' : Text), h = h₁ ++ e :: (h₂ ++ e' :: h₃) → e.request? n = some id →
      e'.request? n' = some id' → ∃ d ∈ h₂, d.answer?.isSome = true)
    ∧ (∀ (h₁ : History) (e : Entry) (h₂ : History) (code cellId path wanted : Text),
      h = h₁ ++ e :: h₂ → e.call? = some (.execute code cellId wanted) →
      e.before.isAlive = true → e.before.runtime = some path → Text.SamePath path wanted →
      (∀ d ∈ h₂.dropLast, d.answer? = none) →
      ∃ l, e.before.live = some l ∧ m.Has l.process path ∧ ∀ d ∈ e :: h₂, d.Spares code cellId)
    ∧ (∀ (h₁ : History) (e : Entry) (h₂ : History) (t : Nat), h = h₁ ++ e :: h₂ →
      e.answer? = some (.failed (.executionTimeout t)) → (∀ d ∈ h₂, d.call? = none) →
      e.after.isAlive = e.before.isAlive
        ∧ ∃ l, e.before.live = some l ∧ m.Has l.process l.runtime)
  := by
  refine ⟨?_, ?_, ?_, ?_, ?_, ?_⟩
  · intro n started n' started' unreaped unreaped'
    rcases run.reaped started with ⟨e, he, code, reaped⟩ | ⟨l, session, rfl, -⟩
    · cases (unreaped e he).symm.trans reaped
    · rcases run.reaped started' with ⟨e, he, code, reaped⟩ | ⟨l', session', rfl, -⟩
      · cases (unreaped' e he).symm.trans reaped
      · rw [Option.some.inj (session.symm.trans session')]
  · rintro h₁ e h₂ rfl fertile n started
    obtain ⟨before, follows⟩ := run.at_entry
    exact before.settled_before follows fertile started
  · rintro h₁ e h₂ line rfl writes
    obtain ⟨before, follows⟩ := run.at_entry
    rcases follows.transition.writes writes with asks | ⟨code, cellId, l, begins, rfl⟩
    · exact .inl asks
    · obtain ⟨path, sends⟩ := begins.sends before
      exact .inr ⟨l.process, code, cellId, path, sends, rfl, _, rfl,
        (Request.execute code cellId).newline_notMem_compact⟩
  · rintro h₁ e h₂ e' h₃ n n' id id' rfl request request'
    exact run.answered_between request request'
  · rintro h₁ e h₂ code cellId path wanted rfl called alive known fits unanswered
    exact run.kept called alive known fits unanswered
  · rintro h₁ e h₂ t rfl answer uncalled
    obtain ⟨before, follows⟩ := run.at_entry
    obtain ⟨l, live, runtime, after⟩ := before.timed_out follows answer
    refine ⟨by simp [after, Manager.isAlive, live]; rfl, l, live, ?_⟩
    rw [List.append_cons] at run
    refine ((before.move follows).has_until_call run ?_ ?_ uncalled).2
    · rw [after]
    · rw [after]
      exact ⟨_, rfl, rfl, rfl⟩

/-- After a call for the cell `a` ran out of time, the one for `b` keeps the session, and its request
goes to the process that was started with its runtime. -/
theorem one_process_late :
  ∃ m, Run {} (.played {} lateMoves) m
    ∧ (∃ e ∈ (History.played {} lateMoves)[10]?, ∃ n,
      e.Sends ((History.played {} lateMoves).take 10) n "2".toList "b".toList "python".toList)
    ∧ ∃ e ∈ (History.played {} lateMoves)[9]?, ∃ l ∈ e.before.live,
      m.Has l.process "python".toList
  := by
  obtain ⟨m, run⟩ := Run.played {} lateMoves (by decide +kernel)
  obtain ⟨-, -, writes, -, keeps, -⟩ := run.one_process
  have begun : ∃ e ∈ (History.played {} lateMoves)[10]?,
      .write (Request.execute "2".toList "b".toList).line ∈ e.actions
        ∧ (Request.execute "2".toList "b".toList).line ≠ Request.shutdown.line := by decide +kernel
  have operation : History.operation? ((History.played {} lateMoves).take 10)
      = some (.execute "2".toList "b".toList "python".toList) := by decide +kernel
  have called : ∃ e ∈ (History.played {} lateMoves)[9]?,
      e.call? = some (.execute "2".toList "b".toList "python".toList) ∧ e.before.isAlive = true
        ∧ e.before.runtime = some "python".toList := by decide +kernel
  obtain ⟨e, he, write, other⟩ := begun
  obtain ⟨e', he', called, alive, known⟩ := called
  have split := History.split_at_place he
  have split' := History.split_at_place he'
  obtain ⟨l, live, has, -⟩ :=
    keeps _ _ _ _ _ _ _ split' called alive known (.refl _) (by decide +kernel)
  refine ⟨m, run, ⟨e, he, ?_⟩, e', he', l, live, has⟩
  rcases writes _ _ _ _ split write with ⟨asks, -⟩ | ⟨n, code, cellId, path, sends, -⟩
  · exact absurd asks other
  · obtain ⟨rfl, rfl, rfl⟩ :=
      Operation.execute.inj (Option.some.inj (operation.symm.trans sends.operation))
    exact ⟨n, sends⟩

end Session

end NotebookEngine
