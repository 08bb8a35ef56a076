import NotebookEngine.Proofs.Session.Operations

/-!
# The processes of a run

A manager listens to the process of one session at a time, the one it holds or the one it is
closing (`Manager.session?`). `SessionStep` lists what a move can do to that session: it is started,
it stays and makes a `Live.Step`, or it is left when its exit is recorded in all its parts. In a run
the session is the one that was started last (`Run.session_last`), every process that was started
before is reaped (`Run.reaped`), and what the steps of a session keep stays true of it
(`Run.session_stays`).
-/

namespace NotebookEngine

namespace Session

variable {m m' : Manager} {mv : Move} {actions : List Action} {c : KernelConfig} {h : History}

/-- What an entry does to the reader of the output of a process. -/
inductive Reader.Step (e : Entry) (n : Nat) : Reader → Reader → Prop
  | same {r : Reader} (reaped : e.reaped? n = none) (recorded : e.recorded? n = none) : Step e n r r
  | stopped (reaped : e.reaped? n = none) (recorded : e.recorded? n = none) :
    Step e n .reading .reaping
  | reaped {code : Option Int} (reaped : e.reaped? n = some code)
      (recorded : e.recorded? n = none) :
    Step e n .reaping (.recording code ExitPart.all)
  | recorded {code : Option Int} {p : ExitPart} {left : List ExitPart} (reaped : e.reaped? n = none)
      (recorded : e.recorded? n = if left = [] then some code else none) :
    Step e n (.recording code (p :: left)) (.recording code left)

/-- What an entry does to a session that stays. -/
inductive Live.Step (e : Entry) : Live → Live → Prop
  | heard {l : Live} {n : Nat} {o : Output} (move : e.move = .hear (.output n o)) :
    Step e l (l.hear n o)
  | same {l : Live} (silent : ∀ n o, e.move ≠ .hear (.output n o)) : Step e l l
  | stopped {l : Live} (silent : ∀ n o, e.move ≠ .hear (.output n o)) :
    Step e l { l with reader := l.reader.stop }
  | begun {l : Live} {cellId : Text} (silent : ∀ n o, e.move ≠ .hear (.output n o))
      (exited : l.slot.exited = none) :
    Step e l { l with slot := { l.slot with call := .pending cellId } }
  | abandoned {l : Live} (silent : ∀ n o, e.move ≠ .hear (.output n o)) :
    Step e l { l with slot := l.slot.abandon }

/-- What an entry does to the session whose process the manager listens to. -/
inductive SessionStep (e : Entry) : Option Live → Option Live → Prop
  | absent (started : e.started? = none) : SessionStep e none none
  | started {n : Nat} {runtime : Text} (started : e.started? = some n) :
    SessionStep e none (some { runtime, process := n })
  | stays {l l' : Live} (started : e.started? = none) (step : l.Step e l') :
    SessionStep e (some l) (some l')
  | left {l : Live} (started : e.started? = none) (reader : l.reader.isDone = true) :
    SessionStep e (some l) none

/-! ### Readers -/

namespace Reader

variable {e : Entry} {n : Nat} {r r' : Reader} {code : Option Int} {left : List ExitPart}

theorem hasReaped_of_isDone (done : r.isDone = true) :
  r.hasReaped = true
  := by
  cases r with
  | recording code left => rfl
  | reading => cases done
  | reaping => cases done

namespace Step

/-- What is no output of a process lets its reader be, or stops it. -/
theorem of_no_output (silent : ∀ n o, e.move ≠ .hear (.output n o)) (r : Reader) :
  r.Step e n r ∧ r.Step e n r.stop
  := by
  have reaped := Entry.reaped?_of_no_output silent n
  have recorded := Entry.recorded?_of_no_output silent n
  refine ⟨.same reaped recorded, ?_⟩
  cases r with
  | reading => exact .stopped reaped recorded
  | reaping => exact .same reaped recorded
  | recording code left => exact .same reaped recorded

/-- A reader has reaped its process after an entry if it had before, or if the entry reaps it. -/
theorem hasReaped_iff (step : r.Step e n r') :
  r'.hasReaped = true ↔ r.hasReaped = true ∨ ∃ code, e.reaped? n = some code
  := by
  cases step <;> simp_all [hasReaped]

/-- Once the parts of an exit are being recorded, no other exit is, and no part comes back. -/
theorem recording (step : Step e n (.recording code left) r') :
  ∃ left', r' = .recording code left' ∧ left' <:+ left
  := by
  cases step with
  | same => exact ⟨left, rfl, List.suffix_refl left⟩
  | recorded => exact ⟨_, rfl, List.suffix_cons _ _⟩

/-- The exit whose parts are being recorded is the one with which the process is reaped. -/
theorem reaped_of_recording (step : r.Step e n (.recording code left)) :
  e.reaped? n = some code ∨ ∃ left', r = .recording code left'
  := by
  cases step with
  | same => exact .inr ⟨left, rfl⟩
  | reaped reaped => exact .inl reaped
  | recorded => exact .inr ⟨_, rfl⟩

/-- After the last part of an exit is recorded, none is left. -/
theorem done_of_recorded (step : r.Step e n r') (last : e.recorded? n = some code) :
  r' = .recording code []
  := by
  cases step with
  | same _ recorded | stopped _ recorded | reaped _ recorded => cases recorded.symm.trans last
  | @recorded code' p left _ recorded =>
      rw [last] at recorded
      split at recorded
      case isTrue none =>
        obtain rfl := Option.some.inj recorded
        rw [none]
      case isFalse => cases recorded

/-- An entry that does not record the last part of an exit leaves some. -/
theorem isDone_eq_false (step : r.Step e n r') (left : r.isDone = false)
    (quiet : e.recorded? n = none) :
  r'.isDone = false
  := by
  cases step with
  | same => exact left
  | stopped => rfl
  | reaped => rfl
  | @recorded code p rest _ recorded =>
      cases rest with
      | nil => cases quiet.symm.trans recorded
      | cons p rest => rfl

end Step

end Reader

/-- What a process does steps the reader of its session, and that of no other one. -/
theorem Live.hear_reader {l : Live} {n : Nat} {o : Output} (session : m.session? = some l) :
  l.reader.Step ⟨m, .hear (.output n o), m', actions⟩ l.process (l.hear n o).reader
  := by
  unfold hear
  split
  case isFalse other =>
    have other : n ≠ l.process := Ne.symm other
    apply Reader.Step.same
    · cases o <;> simp [Entry.reaped?, session, other]
    · cases o <;> simp only [Entry.recorded?, session]
      split <;> simp [other]
  case isTrue same =>
    cases o with
    | line octets =>
        simp only [notice]
        split
        case h_1 => exact .same rfl rfl
        case h_2 reading _ =>
          rw [reading]
          exact .stopped rfl rfl
        case h_3 => exact .same rfl rfl
    | ended =>
        cases reader : l.reader with
        | reading => simpa [notice, reader, Reader.stop] using .stopped rfl rfl
        | reaping => simpa [notice, reader, Reader.stop] using .same rfl rfl
        | recording code left => simpa [notice, reader, Reader.stop] using .same rfl rfl
    | exited code =>
        cases reader : l.reader with
        | reaping =>
            simp only [notice, reader]
            apply Reader.Step.reaped
            · simp [Entry.reaped?, session, same, reader]
            · rfl
        | reading | recording _ _ =>
            simp only [notice, reader]
            apply Reader.Step.same
            · simp [Entry.reaped?, session, reader]
            · rfl
    | recorded =>
        cases reader : l.reader with
        | recording code left =>
            cases left with
            | nil =>
                simp only [notice, reader]
                apply Reader.Step.same
                · rfl
                · simp [Entry.recorded?, session, reader]
            | cons p left =>
                simp only [notice, reader]
                apply Reader.Step.recorded
                · rfl
                · cases left <;> simp [Entry.recorded?, session, reader, same]
        | reading | reaping =>
            simp only [notice, reader]
            apply Reader.Step.same
            · rfl
            · simp [Entry.recorded?, session, reader]

namespace Live.Step

variable {e : Entry} {l l' : Live}

theorem process (step : l.Step e l') :
  l'.process = l.process
  := by
  cases step with
  | heard => apply Live.hear_process
  | _ => rfl

/-- A session that stays steps its reader. -/
theorem reader (step : l.Step e l') (session : e.before.session? = some l) :
  l.reader.Step e l.process l'.reader
  := by
  obtain ⟨m, mv, m', actions⟩ := e
  cases step with
  | heard move =>
      obtain rfl : mv = _ := move
      exact Live.hear_reader session
  | same silent | begun silent | abandoned silent => exact (Reader.Step.of_no_output silent _).1
  | stopped silent => exact (Reader.Step.of_no_output silent _).2

/-- Once nobody waits on a session, nobody does as long as it stays. -/
theorem gone {code : Option Int} (step : l.Step e l') (sound : l.Sound) (gone : l.Gone code) :
  l'.Gone code
  := by
  cases step with
  | heard => exact gone.hear sound _ _
  | begun _ exited => cases exited.symm.trans gone.exited
  | abandoned => exact ⟨gone.exited, gone.ready, nofun, nofun, gone.handshake⟩
  | same => exact gone
  | stopped => exact ⟨gone.exited, gone.ready, gone.pending, gone.taken, gone.handshake⟩

end Live.Step

/-! ### Transitions -/

theorem Manager.notice_session? (m : Manager) (n : Nat) (o : Output) :
  (m.notice n o).session? = m.session?.map (·.hear n o)
  := by
  cases stage : m.stage <;> simp only [notice, session?, stage, Option.map_some]

/-- An output is noticed, and nothing else is done. -/
theorem Entry.Follows.after_output {e : Entry} {n : Nat} {o : Output} (follows : e.Follows h)
    (move : e.move = .hear (.output n o)) :
  e.after = e.before.notice n o
  := by
  have possible := follows.possible
  rw [move] at possible
  exact (Prod.mk.inj (Option.some.inj possible)).1.symm

/-- The stage is about the session that is held, and not about one that is being closed. -/
def Stage.isOpen : Stage → Bool
  | .asking _ _ | .leaving _ _ | .killed _ _ => false
  | _ => true

/-- A manager listens to the session it holds unless it is closing one. -/
theorem Manager.session?_of_isOpen (isOpen : m.stage.isOpen = true) :
  m.session? = m.live
  := by
  unfold session?
  split
  case h_4 => rfl
  all_goals
    rename_i stage
    rw [stage] at isOpen
    cases isOpen

/-- The session that is held notices what its process does. -/
theorem Manager.notice_of_isOpen {l : Live} (isOpen : m.stage.isOpen = true)
    (live : m.live = some l) (n : Nat) (o : Output) :
  m.notice n o = { m with live := some (l.hear n o) }
  := by
  unfold notice
  split
  case h_4 => rw [live, Option.map_some]
  all_goals
    rename_i stage
    rw [stage] at isOpen
    cases isOpen

/-- A manager whose session takes no notice of an output is as it was. -/
theorem Manager.notice_eq_self {n : Nat} {o : Output} (deaf : ∀ l ∈ m.session?, l.hear n o = l) :
  m.notice n o = m
  := by
  obtain ⟨config, live, runtime, script, stage⟩ := m
  cases stage with
  | asking l next | leaving l next | killed l next => simp only [notice, deaf l rfl]
  | _ =>
      cases live with
      | none => rfl
      | some l => simp only [notice, Option.map_some, deaf l rfl]

/-- Closing the session goes on listening to its process. -/
theorem Manager.close_session? (m : Manager) (next : Sequel) :
  (m.close next).1.session? = m.live
  := by
  unfold close
  split
  case h_1 live => exact live.symm
  case h_2 l live => split <;> exact live.symm

/-- A move that neither starts a process nor is the output of one may leave the session as it is. -/
theorem SessionStep.same {e : Entry} (started : e.started? = none)
    (silent : ∀ n o, e.move ≠ .hear (.output n o)) (s : Option Live) :
  SessionStep e s s
  := by
  cases s with
  | none => exact .absent started
  | some l => exact .stays started (.same silent)

/-- Closing the session is no output of a process, starts none, and the manager held the session
that it listens to. -/
theorem Closes.session {next : Sequel} (why : Closes m mv next) :
  (∀ n o, mv ≠ .hear (.output n o)) ∧ (Entry.mk m mv m' actions).started? = none
    ∧ m.session? = m.live
  := by
  cases why with
  | start stage | execute stage | restart stage | shutdown stage | silent stage =>
      refine ⟨?_, rfl, by simp only [Manager.session?, stage]⟩
      intro n o move
      cases move
  | lost own stage =>
      exact ⟨own.no_output, Entry.started?_of_own own, by simp only [Manager.session?, stage]⟩

/-- The end of an operation that has no call to end is no output of a process, starts none, and the
manager holds the session that it listens to. -/
theorem Finishes.session {a : Answer} (why : Finishes m mv a) :
  (∀ n o, mv ≠ .hear (.output n o)) ∧ (Entry.mk m mv m' actions).started? = none
    ∧ m.session? = m.live
  := by
  cases why with
  | unknown stage | unprepared stage | unspawned stage =>
      refine ⟨?_, rfl, by simp only [Manager.session?, stage]⟩
      intro n o move
      cases move
  | closed own stage | greeted own stage | absent own stage | refused own stage =>
      exact ⟨own.no_output, Entry.started?_of_own own, by simp only [Manager.session?, stage]⟩

/-- A call is over by an own move. -/
theorem Ends.own {l : Live} {a : Answer} (why : Ends m l mv a) :
  mv.IsOwn
  := by
  cases why with
  | replied own | dropped own => exact own
  | expired => exact .inr rfl

/-- An output of a process lets the session stay, and reaps it if it is its exit. -/
theorem SessionStep.noticed (m : Manager) (n : Nat) (o : Output) :
  SessionStep ⟨m, .hear (.output n o), m.notice n o, []⟩ m.session? (m.notice n o).session?
  := by
  rw [Manager.notice_session?]
  cases session : m.session? with
  | none => exact .absent rfl
  | some l => exact .stays rfl (.heard rfl)

/-- A transition of a sound manager does one of these things to the session. -/
theorem Transition.session (step : Transition m mv m' actions) (sound : m.Sound) :
  SessionStep ⟨m, mv, m', actions⟩ m.session? m'.session?
  := by
  cases step with
  | @ignored e call spawned output =>
      apply SessionStep.same
      · apply Entry.started?_of_unasked
        intro n runtime purpose move
        apply spawned _ _ _ (Move.hear.inj move)
      · intro n o move
        apply output n o (Move.hear.inj move)
  | @noticed n o => apply SessionStep.noticed
  | @closing _ next why =>
      obtain ⟨silent, started, session⟩ := why.session
      rw [m.close_session? next, session]
      apply SessionStep.same started silent
  | kept stage =>
      have session : m.session? = m.live := by simp only [Manager.session?, stage]
      rw [session]
      apply SessionStep.same rfl
      intro n o move
      cases move
  | finished why =>
      obtain ⟨silent, started, session⟩ := why.session
      rw [session]
      apply SessionStep.same started silent
  | @left _ l _ own stage done =>
      have session : m.session? = some l := by
        rcases stage with stage | stage <;> simp only [Manager.session?, stage]
      have vacant : m.live = none := by
        rcases stage with stage | stage <;> exact (sound.promises stage).1.live
      rw [session]
      simp only [Manager.session?, vacant]
      exact .left (Entry.started?_of_own own) done
  | preparing own stage | spawning own stage | greeted own stage =>
      have session : m.session? = m.live := by simp only [Manager.session?, stage]
      rw [session]
      apply SessionStep.same (Entry.started?_of_own own) own.no_output
  | prepared stage =>
      have session : m.session? = m.live := by simp only [Manager.session?, stage]
      rw [session]
      apply SessionStep.same rfl
      intro n o move
      cases move
  | spawned stage =>
      have session : m.session? = none := by
        simp only [Manager.session?, stage]
        exact (sound.promises stage).live
      rw [session]
      apply SessionStep.started
      simp only [Entry.started?, stage]
  | @begun _ _ _ l own stage live exited =>
      have session : m.session? = some l := by
        simp only [Manager.session?, stage]
        exact live
      rw [session]
      exact .stays (Entry.started?_of_own own) (.begun own.no_output exited)
  | sent stage =>
      have session : m.session? = m.live := by simp only [Manager.session?, stage]
      rw [session]
      apply SessionStep.same rfl
      intro n o move
      cases move
  | @ended _ l _ stage live why =>
      have session : m.session? = some l := by
        simp only [Manager.session?, stage]
        exact live
      rw [session]
      exact .stays (Entry.started?_of_own why.own) (.abandoned why.own.no_output)
  | asked stage =>
      simp only [Manager.session?, stage]
      apply SessionStep.same rfl
      intro n o move
      cases move
  | killed stage =>
      simp only [Manager.session?, stage]
      apply SessionStep.stays rfl
      apply Live.Step.stopped
      intro n o move
      cases move

/-! ### Runs -/

/-- The session is the one whose process was started last. -/
theorem Run.session_last (run : Run c h m) {l : Live} (session : m.session? = some l) :
  h.started.getLast? = some l.process
  := by
  induction run generalizing l with
  | new => cases session
  | @move h e run follows ih =>
      rw [History.started_concat]
      have step := follows.transition.session run.sound
      revert session
      generalize e.after.session? = s', hs : e.before.session? = s at step
      cases step with
      | absent => nofun
      | @started n runtime started =>
          rintro ⟨⟩
          rw [started]
          exact List.getLast?_concat
      | stays started step =>
          rintro ⟨⟩
          rw [started, step.process, Option.toList_none, List.append_nil]
          apply ih hs
      | left => nofun

/-- A process that was started is reaped in the history, or it is the process of the session, which
is not reaped yet. -/
theorem Run.reaped (run : Run c h m) {n : Nat} (started : n ∈ h.started) :
  (∃ e ∈ h, ∃ code, e.reaped? n = some code)
    ∨ ∃ l, m.session? = some l ∧ l.process = n ∧ l.reader.hasReaped = false
  := by
  induction run with
  | new => cases started
  | @move h e run follows ih =>
      have step := follows.transition.session run.sound
      rw [History.started_concat, List.mem_append] at started
      -- A process that was reaped before stays so.
      have mono : (∃ d ∈ h, ∃ code, d.reaped? n = some code) →
          ∃ d ∈ h ++ [e], ∃ code, d.reaped? n = some code := by
        rintro ⟨d, hd, reaped⟩
        exact ⟨d, List.mem_append_left _ hd, reaped⟩
      generalize hs : e.before.session? = s, hs' : e.after.session? = s' at step
      cases step with
      | absent quiet =>
          simp only [quiet, Option.toList_none, List.not_mem_nil, or_false] at started
          rcases ih started with reaped | ⟨l, session, -⟩
          · exact .inl (mono reaped)
          · cases hs.symm.trans session
      | @started k runtime spawned =>
          rcases started with started | started
          · rcases ih started with reaped | ⟨l, session, -⟩
            · exact .inl (mono reaped)
            · cases hs.symm.trans session
          · simp only [spawned, Option.toList_some, List.mem_singleton] at started
            exact .inr ⟨_, rfl, started.symm, rfl⟩
      | @stays l l' quiet step =>
          simp only [quiet, Option.toList_none, List.not_mem_nil, or_false] at started
          rcases ih started with reaped | ⟨k, session, same, fresh⟩
          · exact .inl (mono reaped)
          · obtain rfl := Option.some.inj (hs.symm.trans session)
            cases reaped : l'.reader.hasReaped with
            | false => exact .inr ⟨l', rfl, step.process.trans same, reaped⟩
            | true =>
                rcases (step.reader hs).hasReaped_iff.mp reaped with before | ⟨code, now⟩
                · cases fresh.symm.trans before
                · exact .inl ⟨e, by simp, code, same ▸ now⟩
      | left quiet done =>
          simp only [quiet, Option.toList_none, List.not_mem_nil, or_false] at started
          rcases ih started with reaped | ⟨k, session, same, fresh⟩
          · exact .inl (mono reaped)
          · obtain rfl := Option.some.inj (hs.symm.trans session)
            cases fresh.symm.trans (Reader.hasReaped_of_isDone done)

/-! ### Exits -/

/-- The process of the session was started. -/
theorem Run.process_started (run : Run c h m) {l : Live} (session : m.session? = some l) :
  l.process ∈ h.started
  := List.mem_of_getLast? (run.session_last session)

/-- The exit that is being recorded in a session is the one with which its process was reaped. -/
theorem Run.reaped_of_recording (run : Run c h m) {l : Live} (session : m.session? = some l)
    {code : Option Int} {left : List ExitPart} (reader : l.reader = .recording code left) :
  ∃ e ∈ h, e.reaped? l.process = some code
  := by
  induction run generalizing l left with
  | new => cases session
  | @move h e run follows ih =>
      have step := follows.transition.session run.sound
      rw [session] at step
      generalize hs : e.before.session? = s at step
      cases step with
      | started => cases reader
      | @stays k _ quiet step =>
          have stepped := step.reader hs
          rw [reader] at stepped
          rw [step.process]
          rcases stepped.reaped_of_recording with reaped | ⟨left', before⟩
          · exact ⟨e, by simp, reaped⟩
          · obtain ⟨d, hd, reaped⟩ := ih hs before
            exact ⟨d, List.mem_append_left _ hd, reaped⟩

/-- What every step of a session keeps stays true as long as the session is the same. -/
theorem Run.session_stays {P : Live → Prop}
    (keeps : ∀ (e : Entry) (l l' : Live), e.before.session? = some l → l.Sound → l.Step e l' →
      P l → P l')
    {h' : History} (run : Run c h m) (run' : Run c (h ++ h') m') {l l' : Live}
    (session : m.session? = some l) (session' : m'.session? = some l')
    (same : l'.process = l.process) (holds : P l) :
  P l'
  := by
  induction h' using List.reverseRecOn generalizing m' l' with
  | nil =>
      rw [List.append_nil] at run'
      obtain rfl := run.unique run'
      obtain rfl := Option.some.inj (session.symm.trans session')
      exact holds
  | append_singleton h' e ih =>
      rw [← List.append_assoc] at run'
      obtain ⟨before, follows, rfl⟩ := Run.concat_iff.mp run'
      have step := follows.transition.session before.sound
      rw [session'] at step
      generalize hs : e.before.session? = s at step
      cases step with
      | started started =>
          -- The number of a new process is not that of one before.
          obtain rfl := same
          exfalso
          apply follows.fresh _ started
          rw [History.started_append]
          exact List.mem_append_left _ (run.process_started session)
      | @stays k _ quiet step =>
          apply keeps e k l' hs (before.sound.session hs) step
          exact ih before hs (step.process.symm.trans same)

/-- As long as a session is the same, the exit that is being recorded in it is, and no part of it
comes back. -/
theorem Run.recording_stays {h' : History} (run : Run c h m) (run' : Run c (h ++ h') m')
    {l l' : Live} (session : m.session? = some l) (session' : m'.session? = some l')
    (same : l'.process = l.process) {code : Option Int} {left : List ExitPart}
    (reader : l.reader = .recording code left) :
  ∃ left', l'.reader = .recording code left' ∧ left' <:+ left
  := by
  apply run.session_stays _ run' session session' same ⟨left, reader, List.suffix_refl left⟩
  rintro e k k' before - step ⟨left₁, reader₁, suffix₁⟩
  have stepped := step.reader before
  rw [reader₁] at stepped
  obtain ⟨left₂, reader₂, suffix₂⟩ := stepped.recording
  exact ⟨left₂, reader₂, suffix₂.trans suffix₁⟩

/-- After the entry that records the last part of an exit, none is left. -/
theorem Entry.Follows.recorded {e : Entry} {n : Nat} {code : Option Int} (run : Run c h e.before)
    (follows : e.Follows h) (recorded : e.recorded? n = some code) :
  ∃ l, e.after.session? = some l ∧ l.process = n ∧ l.reader = .recording code []
  := by
  obtain ⟨-, l, p, session, rfl, reader⟩ := e.last_of_recorded? recorded
  have step := follows.transition.session run.sound
  rw [session] at step
  generalize hs : e.after.session? = s at step
  cases step with
  | @stays _ l' quiet step =>
      exact ⟨l', rfl, step.process, (step.reader session).done_of_recorded recorded⟩
  | left quiet done =>
      rw [reader] at done
      cases done

/-- Once the exit of the process of a session is recorded to its end, it stays so. -/
theorem Run.recorded (run : Run c h m) {e : Entry} (he : e ∈ h) {l : Live}
    (session : m.session? = some l) {code : Option Int}
    (recorded : e.recorded? l.process = some code) :
  l.reader = .recording code []
  := by
  obtain ⟨h₁, h₂, rfl⟩ := List.append_of_mem he
  obtain ⟨before, follows⟩ := run.at_entry
  obtain ⟨k, session₁, same, reader⟩ := follows.recorded before recorded
  rw [List.append_cons] at run
  obtain ⟨left, hleft, suffix⟩ :=
    (before.move follows).recording_stays run session₁ session same.symm reader
  rw [hleft, List.suffix_nil.mp suffix]

end Session

end NotebookEngine
