import NotebookEngine.Proofs.Session.Calls

/-!
# Exits and who waits for them

The exit of a process reaches whoever waits on its session, in whatever order the parts in which it
is recorded come between the steps of an operation.

A call whose session has lost its process is fated to be answered with the exit (`Manager.Refuses`),
and so is an operation whose session never announced itself (`Manager.Loses`). Either holds from the
time the exit is recorded until the answer is given, and an operation that is left to itself gives it
(`Manager.settle`).
-/

namespace NotebookEngine

namespace Session

variable {m m' : Manager} {mv : Move} {actions : List Action} {c : KernelConfig}
  {h pre mid : History} {b : Entry} {cellId : Text} {l : Live} {code : Option Int}

/-- The answer of an operation that goes on by itself, if it takes no more than so many steps. -/
def Manager.settle : Nat → Manager → Option Answer
  | 0, _ => none
  | k + 1, m =>
    match m.proceed with
    | none => none
    | some (m', actions) => (answerAmong? actions).or (m'.settle k)

/-- An operation that has to wait is not answered. -/
theorem Manager.settle_of_waiting (waits : m.proceed = none) (k : Nat) :
  m.settle k = none
  := by
  cases k with
  | zero => rfl
  | succ k => simp only [settle, waits]

theorem Manager.proceed_of_sending (stage : m.stage = .sending) :
  m.proceed = none
  := by
  simp only [proceed, stage]

/-- A step that gives no answer leaves the rest to the manager after it. -/
theorem Manager.settle_succ {k : Nat} (proceeds : m.proceed = some (m', actions))
    (answer : answerAmong? actions = none) :
  m.settle (k + 1) = m'.settle k
  := by
  simp only [settle, proceeds, answer, Option.none_or]

/-- The entry dispatches the line by which the session of a process announces itself. -/
def Entry.Greets (n : Nat) (e : Entry) : Prop :=
  ∃ octets, e.move = .hear (.output n (.line octets))
    ∧ (Utf8.decode? octets).map Message.ofLine = some (.ok .ready)

/-- The call of the operation under way cannot be answered but with the exit of the process. -/
inductive Manager.Refuses (m : Manager) (code : Option Int) : Prop
  | calling {src cellId : Text} {l : Live} (stage : m.stage = .calling src cellId)
      (live : m.live = some l) (gone : l.Gone code) : Refuses m code
  | called {l : Live} (stage : m.stage = .sending ∨ m.stage = .awaiting) (live : m.live = some l)
      (call : l.slot.call = .answered (.error (.kernelProcessExited code))) : Refuses m code

/-- The operation under way ends with the exit of a process that left before its session announced
itself. -/
inductive Manager.Loses (m : Manager) (code : Option Int) : Prop
  | greeting {purpose : Purpose} {l : Live} (stage : m.stage = .greeting purpose)
      (live : m.live = some l) (lost : l.slot.handshake = .lost) (exited : l.slot.exited = some code)
      (reader : l.reader = .recording code []) : Loses m code
  | leaving {l : Live}
      (stage : m.stage = .leaving l (.answer (.failed (.kernelProcessExited code)))
        ∨ m.stage = .killed l (.answer (.failed (.kernelProcessExited code))))
      (reader : l.reader = .recording code []) : Loses m code
  | closed (stage : m.stage = .closed (.answer (.failed (.kernelProcessExited code)))) :
    Loses m code

/-! ### Calls that are refused -/

namespace Manager.Refuses

/-- A refused call is answered with the exit, and until then it stays refused. -/
theorem step (refuses : m.Refuses code) (sound : m.Sound) (step : Transition m mv m' actions) :
  (m'.Refuses code ∧ answerAmong? actions = none)
    ∨ answerAmong? actions = some (.failed (.kernelProcessExited code))
  := by
  cases refuses with
  | @calling src cellId l stage live gone =>
      cases step with
      | ignored => exact .inl ⟨.calling stage live gone, rfl⟩
      | @noticed n o =>
          have isOpen : m.stage.isOpen = true := by simp only [stage, Stage.isOpen]
          have hears := sound.session ((session?_of_isOpen isOpen).trans live)
          refine .inl ⟨?_, rfl⟩
          rw [notice_of_isOpen isOpen live]
          exact .calling stage rfl (gone.hear hears n o)
      | begun _ _ live' exited =>
          obtain rfl := Option.some.inj (live.symm.trans live')
          cases exited.symm.trans gone.exited
      | finished why =>
          cases why with
          | refused _ _ live' exited =>
              obtain rfl := Option.some.inj (live.symm.trans live')
              obtain rfl := Option.some.inj (exited.symm.trans gone.exited)
              exact .inr rfl
          | absent _ _ absent => cases live.symm.trans absent
          | _ => simp_all
      | closing why => cases why <;> simp_all
      | _ => simp_all
  | @called l stage live call =>
      cases step with
      | ignored => exact .inl ⟨.called stage live call, rfl⟩
      | @noticed n o =>
          have isOpen : m.stage.isOpen = true := by
            rcases stage with stage | stage <;> simp only [stage, Stage.isOpen]
          have heard := l.hear_call n o
          rw [call] at heard
          refine .inl ⟨?_, rfl⟩
          rw [notice_of_isOpen isOpen live]
          exact .called stage rfl heard.eq_answered
      | sent => exact .inl ⟨.called (.inr rfl) live call, rfl⟩
      | ended _ live' why =>
          obtain rfl := Option.some.inj (live.symm.trans live')
          cases why with
          | replied _ call' =>
              obtain rfl := Call.answered.inj (call.symm.trans call')
              exact .inr rfl
          | dropped _ none => cases call.symm.trans none
          | expired open_ => simp [call] at open_
      | finished why => rcases stage with stage | stage <;> cases why <;> simp_all
      | closing why => rcases stage with stage | stage <;> cases why <;> simp_all
      | left _ other => rcases stage with stage | stage <;> simp_all
      | _ => rcases stage with stage | stage <;> simp_all

/-- A refused call is answered at once, unless its request is still being written. -/
theorem settle (refuses : m.Refuses code) (written : m.stage ≠ .sending) :
  m.settle 1 = some (.failed (.kernelProcessExited code))
  := by
  cases refuses with
  | @calling src cellId l stage live gone =>
      simp [Manager.settle, proceed, stage, live, beginCall, Slot.begin?, Slot.hasExited,
        Slot.exitError, Slot.exitCode, gone.exited, finish, goDoing, answerAmong?]
  | called stage live call =>
      have stage := stage.resolve_left written
      simp [Manager.settle, proceed, stage, live, call, endCall, answerOf, finish, goDoing,
        answerAmong?]

/-- While its request is being written, nothing but the end of that leads on, and then it is answered
at once. -/
theorem of_sending (refuses : m.Refuses code) (sound : m.Sound) (stage : m.stage = .sending)
    (step : Transition m mv m' actions) :
  m'.stage = .sending ∧ answerAmong? actions = none
    ∨ (∃ ok, mv = .hear (.written ok))
      ∧ m'.settle 1 = some (.failed (.kernelProcessExited code))
  := by
  have still := refuses.step sound step
  cases step with
  | ignored => exact .inl ⟨stage, rfl⟩
  | noticed => exact .inl ⟨by simp only [notice, stage], rfl⟩
  | sent =>
      rcases still with ⟨refuses, -⟩ | answers
      · exact .inr ⟨⟨_, rfl⟩, refuses.settle (by rintro ⟨⟩)⟩
      · cases answers
  | finished why => cases why <;> simp_all
  | closing why => cases why <;> simp_all
  | left _ other => rcases other with other | other <;> cases stage.symm.trans other
  | _ => simp_all

end Manager.Refuses

/-! ### Starts that are lost -/

namespace Manager.Loses

/-- A start that is lost is answered with the exit, and until then it stays lost. -/
theorem step (loses : m.Loses code) (step : Transition m mv m' actions) :
  (m'.Loses code ∧ answerAmong? actions = none)
    ∨ (m.stage = .closed (.answer (.failed (.kernelProcessExited code)))
      ∧ answerAmong? actions = some (.failed (.kernelProcessExited code))
      ∧ m' = { m with stage := .idle })
  := by
  cases loses with
  | @greeting purpose l stage live lost exited reader =>
      cases step with
      | ignored => exact .inl ⟨.greeting stage live lost exited reader, rfl⟩
      | @noticed n o =>
          refine .inl ⟨?_, rfl⟩
          rw [notice_eq_self]
          · exact .greeting stage live lost exited reader
          · intro k session
            simp only [session?, stage, live] at session
            obtain rfl := Option.some.inj session
            exact l.hear_of_done reader n o
      | closing why =>
          cases why with
          | lost _ _ live' =>
              obtain rfl := Option.some.inj (live.symm.trans live')
              refine .inl ⟨?_, m.close_answer _⟩
              have hasExited : l.slot.hasExited = true := by rw [Slot.hasExited, exited]; rfl
              have exitError : l.slot.exitError = .kernelProcessExited code := by
                rw [Slot.exitError, Slot.exitCode, exited]
                rfl
              simp only [close, live, hasExited, exitError, if_true]
              exact .leaving (.inl rfl) reader
          | silent _ waiting => cases lost.symm.trans (waiting l live)
          | _ => simp_all
      | greeted _ _ live' done =>
          obtain rfl := Option.some.inj (live.symm.trans live')
          cases lost.symm.trans done
      | finished why =>
          cases why with
          | greeted _ _ live' done =>
              obtain rfl := Option.some.inj (live.symm.trans live')
              cases lost.symm.trans done
          | _ => simp_all
      | _ => simp_all
  | @leaving l stage reader =>
      cases step with
      | ignored => exact .inl ⟨.leaving stage reader, rfl⟩
      | @noticed n o =>
          refine .inl ⟨?_, rfl⟩
          rw [notice_eq_self]
          · exact .leaving stage reader
          · intro k session
            have session : l = k := by
              rcases stage with stage | stage <;>
                simpa only [session?, stage, Option.mem_def, Option.some.injEq] using session
            rw [← session]
            exact l.hear_of_done reader n o
      | left _ stage' =>
          refine .inl ⟨.closed ?_, rfl⟩
          rcases stage with stage | stage <;> rcases stage' with stage' | stage' <;> simp_all
      | killed stage' =>
          refine .inl ⟨?_, by split <;> rfl⟩
          rcases stage with stage | stage
          · obtain ⟨rfl, rfl⟩ := Stage.leaving.inj (stage.symm.trans stage')
            exact .leaving (.inr rfl) (by rw [reader]; rfl)
          · cases stage.symm.trans stage'
      | finished why => rcases stage with stage | stage <;> cases why <;> simp_all
      | closing why => rcases stage with stage | stage <;> cases why <;> simp_all
      | _ => rcases stage with stage | stage <;> simp_all
  | closed stage =>
      cases step with
      | ignored => exact .inl ⟨.closed stage, rfl⟩
      | @noticed n o =>
          refine .inl ⟨.closed ?_, rfl⟩
          simp only [notice, stage]
      | finished why =>
          cases why with
          | closed _ stage' =>
              obtain rfl := Sequel.answer.inj (Stage.closed.inj (stage.symm.trans stage'))
              exact .inr ⟨stage, rfl, rfl⟩
          | _ => simp_all
      | closing why => cases why <;> simp_all
      | _ => simp_all

theorem settle_of_closed (k : Nat)
    (stage : m.stage = .closed (.answer (.failed (.kernelProcessExited code)))) :
  m.settle (k + 1) = some (.failed (.kernelProcessExited code))
  := by
  simp [Manager.settle, proceed, stage, follow, finish, goDoing, answerAmong?]

theorem settle_of_leaving (k : Nat)
    (stage : m.stage = .leaving l (.answer (.failed (.kernelProcessExited code)))
      ∨ m.stage = .killed l (.answer (.failed (.kernelProcessExited code))))
    (reader : l.reader = .recording code []) :
  m.settle (k + 2) = some (.failed (.kernelProcessExited code))
  := by
  have proceeds : m.proceed
      = some ({ m with stage := .closed (.answer (.failed (.kernelProcessExited code))) }, []) := by
    rcases stage with stage | stage <;>
      simp [proceed, stage, reader, Reader.isDone, goTo, goDoing]
  rw [settle_succ proceeds rfl]
  exact settle_of_closed k rfl

/-- A start that is lost is answered within three steps. -/
theorem settle (loses : m.Loses code) :
  m.settle 3 = some (.failed (.kernelProcessExited code))
  := by
  cases loses with
  | @greeting purpose l stage live lost exited reader =>
      have proceeds : m.proceed = some
          ({ m with live := none, runtime := none,
                    stage := .leaving l (.answer (.failed (.kernelProcessExited code))) },
            [.closeInput]) := by
        simp [proceed, stage, live, lost, close, Slot.hasExited, Slot.exitError, Slot.exitCode,
          exited, goDoing]
      rw [settle_succ proceeds rfl]
      exact settle_of_leaving 0 (.inl rfl) reader
  | leaving stage reader => exact settle_of_leaving 1 stage reader
  | closed stage => exact settle_of_closed 2 stage

end Manager.Loses

/-! ### Starts that wait -/

/-- The session of a process was started and has not announced itself yet, and the exit of the
process is not recorded to its end. -/
def Manager.Waits (n : Nat) (m : Manager) : Prop :=
  ∃ purpose l, m.stage = .greeting purpose ∧ m.live = some l ∧ l.process = n
    ∧ l.slot.handshake ≠ .done ∧ l.reader.isDone = false

/-- A session waits from the time its process is started. -/
theorem Entry.Follows.waits {e : Entry} {n : Nat} (follows : e.Follows h)
    (started : e.started? = some n) :
  e.after.Waits n
  := by
  unfold Entry.started? at started
  split at started
  case h_1 k runtime purpose move stage =>
    obtain rfl := Option.some.inj started
    have possible := follows.possible
    simp only [move, Manager.move?, Manager.receive, stage, Manager.goTo,
      Manager.goDoing] at possible
    obtain ⟨after, -⟩ := Prod.mk.inj (Option.some.inj possible)
    rw [← after]
    refine ⟨_, _, rfl, rfl, rfl, ?_, rfl⟩
    intro done
    cases done
  case h_2 => cases started

/-- A session waits until it announces itself, its time is over, or the exit is recorded. -/
theorem Manager.Waits.step {n : Nat} (waits : m.Waits n) (sound : m.Sound)
    (step : Transition m mv m' actions) (early : mv ≠ .hear .expired)
    (silent : ¬ (Entry.mk m mv m' actions).Greets n)
    (quiet : (Entry.mk m mv m' actions).recorded? n = none) :
  m'.Waits n
  := by
  obtain ⟨purpose, l, stage, live, rfl, handshake, left⟩ := waits
  have isOpen : m.stage.isOpen = true := by simp only [stage, Stage.isOpen]
  have session : m.session? = some l := (session?_of_isOpen isOpen).trans live
  cases step with
  | ignored => exact ⟨purpose, l, stage, live, rfl, handshake, left⟩
  | @noticed k o =>
      rw [notice_of_isOpen isOpen live]
      refine ⟨purpose, l.hear k o, stage, rfl, l.hear_process k o, ?_, ?_⟩
      · intro done
        rcases Live.greets_of_hear done with done | ⟨rfl, octets, rfl, ready⟩
        · exact handshake done
        · exact silent ⟨octets, rfl, ready⟩
      · exact (Live.hear_reader session).isDone_eq_false left quiet
  | closing why =>
      cases why with
      | lost _ _ live' lost =>
          obtain rfl := Option.some.inj (live.symm.trans live')
          obtain ⟨code, reader⟩ := (sound.session session).done_of_lost lost
          rw [reader] at left
          cases left
      | silent => cases early rfl
      | _ => simp_all
  | greeted _ _ live' done =>
      obtain rfl := Option.some.inj (live.symm.trans live')
      cases handshake done
  | finished why =>
      cases why with
      | greeted _ _ live' done =>
          obtain rfl := Option.some.inj (live.symm.trans live')
          cases handshake done
      | _ => simp_all
  | _ => simp_all

/-- A session that waits is lost when the exit of its process is recorded to its end. -/
theorem Manager.Waits.loses {e : Entry} {n : Nat} (waits : e.before.Waits n)
    (run : Run c h e.before) (follows : e.Follows h) (recorded : e.recorded? n = some code) :
  e.after.Loses code
  := by
  obtain ⟨move, -⟩ := e.last_of_recorded? recorded
  obtain ⟨k, session, same, reader⟩ := follows.recorded run recorded
  obtain ⟨purpose, l, stage, live, rfl, handshake, -⟩ := waits
  have after := follows.after_output move
  rw [notice_of_isOpen (by simp only [stage, Stage.isOpen]) live] at after
  have live' : e.after.live = some (l.hear l.process .recorded) := by rw [after]
  have stage' : e.after.stage = .greeting purpose := by rw [after]; exact stage
  have session' : e.after.session? = some (l.hear l.process .recorded) :=
    (session?_of_isOpen (by simp only [stage', Stage.isOpen])).trans live'
  obtain rfl := Option.some.inj (session'.symm.trans session)
  have gone := ((run.move follows).sound.session session').gone reader
  refine .greeting stage' live' ?_ gone.exited reader
  cases lost : (l.hear l.process .recorded).slot.handshake with
  | lost => rfl
  | waiting => cases gone.handshake lost
  | done =>
      rcases Live.greets_of_hear lost with done | ⟨-, octets, line, -⟩
      · cases handshake done
      · cases line

/-! ### Runs -/

/-- What every transition without an answer keeps stays true until something is answered. -/
theorem Run.until_answer {P : Manager → Prop}
    (keeps : ∀ {m m' : Manager} {mv : Move} {actions : List Action}, m.Sound →
      Transition m mv m' actions → answerAmong? actions = none → P m → P m')
    (run : Run c h m) (run' : Run c (h ++ mid) m') (unanswered : ∀ d ∈ mid, d.answer? = none)
    (holds : P m) :
  P m'
  := by
  induction mid using List.reverseRecOn generalizing m' with
  | nil =>
      rw [List.append_nil] at run'
      rwa [← run.unique run']
  | append_singleton mid e ih =>
      rw [← List.append_assoc] at run'
      obtain ⟨before, follows, rfl⟩ := Run.concat_iff.mp run'
      apply keeps before.sound follows.transition (unanswered e (by simp))
      exact ih before fun d hd => unanswered d (List.mem_append_left _ hd)

theorem Run.refuses_until (run : Run c h m) (run' : Run c (h ++ mid) m')
    (unanswered : ∀ d ∈ mid, d.answer? = none) (refuses : m.Refuses code) :
  m'.Refuses code
  := by
  apply run.until_answer _ run' unanswered refuses
  intro m m' mv actions sound step answer refuses
  rcases refuses.step sound step with ⟨still, -⟩ | answers
  · exact still
  · cases answer.symm.trans answers

theorem Run.loses_until (run : Run c h m) (run' : Run c (h ++ mid) m')
    (unanswered : ∀ d ∈ mid, d.answer? = none) (loses : m.Loses code) :
  m'.Loses code
  := by
  apply run.until_answer _ run' unanswered loses
  intro m m' mv actions sound step answer loses
  rcases loses.step step with ⟨still, -⟩ | ⟨-, answers, -⟩
  · exact still
  · cases answer.symm.trans answers

/-- A history may be cut after an entry in its middle. -/
theorem Run.of_middle {d : Entry} {mid' : History} (run : Run c (pre ++ b :: (mid ++ d :: mid')) m) :
  Run c (pre ++ b :: (mid ++ [d])) d.after ∧ Run c (pre ++ b :: (mid ++ [d]) ++ mid') m
  := by
  have split : pre ++ b :: (mid ++ d :: mid') = pre ++ b :: (mid ++ [d]) ++ mid' := by simp
  refine ⟨?_, split ▸ run⟩
  rw [← List.cons_append, ← List.append_assoc] at run ⊢
  obtain ⟨before, follows⟩ := run.at_entry
  exact before.move follows

/-- A call is refused once the exit is recorded to its end, unless a result for its cell came
before. -/
theorem Run.refuses_of_recorded {d : Entry} {n : Nat} (run : Run c (pre ++ b :: (mid ++ [d])) m)
    (request : b.request? n = some cellId) (unanswered : ∀ e ∈ mid ++ [d], e.answer? = none)
    (recorded : d.recorded? n = some code) (others : firstFor? cellId (mid.replies n) = none) :
  m.Refuses code
  := by
  obtain ⟨l, rfl, under⟩ := run.underway_of_request request unanswered
  have reader := run.recorded (e := d) (by simp) under.session recorded
  have gone := (run.sound.session under.session).gone reader
  have fits := under.call
  have silent : d.reply? l.process = none := by
    obtain ⟨move, -⟩ := d.last_of_recorded? recorded
    cases reply : d.reply? l.process with
    | none => rfl
    | some x =>
        obtain ⟨o, k, move', -, -, heard⟩ := d.heard_of_reply? reply
        cases move.symm.trans move'
        cases heard
  rw [History.replies_concat, silent, Option.toList_none, List.append_nil] at fits
  apply Manager.Refuses.called under.stage under.live
  cases call : l.slot.call with
  | none =>
      rw [call] at fits
      cases fits
  | pending id => cases gone.pending id call
  | taken => cases gone.taken call
  | answered reply =>
      cases reply with
      | ok r =>
          rw [call] at fits
          obtain ⟨x, first, -⟩ := fits
          cases others.symm.trans first
      | error e =>
          obtain ⟨shut, -⟩ := (run.sound.session under.session).shut gone.exited
          rw [shut.reply e call]

/-- A session that was started waits as long as it does not announce itself, its time is not over,
and the exit of its process is not recorded to its end. -/
theorem Run.waits {s : Entry} {n : Nat} (run : Run c (pre ++ s :: mid) m)
    (started : s.started? = some n)
    (early : ∀ e ∈ mid, e.move ≠ .hear .expired ∧ ¬ e.Greets n ∧ e.recorded? n = none) :
  m.Waits n
  := by
  induction mid using List.reverseRecOn generalizing m with
  | nil =>
      obtain ⟨-, follows, rfl⟩ := Run.concat_iff.mp run
      exact follows.waits started
  | append_singleton mid e ih =>
      rw [← List.cons_append, ← List.append_assoc] at run
      obtain ⟨before, follows, rfl⟩ := Run.concat_iff.mp run
      have waits := ih before fun d hd => early d (List.mem_append_left _ hd)
      obtain ⟨timely, silent, quiet⟩ := early e (by simp)
      exact waits.step before.sound follows.transition timely silent quiet

/-- A start is lost once the exit is recorded to its end, unless its session announced itself or its
time was over before. -/
theorem Run.loses_of_recorded {d s : Entry} {n : Nat} (run : Run c (pre ++ s :: (mid ++ [d])) m)
    (started : s.started? = some n) (recorded : d.recorded? n = some code)
    (early : ∀ e ∈ mid, e.move ≠ .hear .expired ∧ ¬ e.Greets n) :
  m.Loses code
  := by
  rw [← List.cons_append, ← List.append_assoc] at run
  obtain ⟨before, follows, rfl⟩ := Run.concat_iff.mp run
  obtain ⟨-, l, p, session, rfl, reader⟩ := d.last_of_recorded? recorded
  have waits : d.before.Waits l.process := by
    apply before.waits started
    intro e he
    refine ⟨(early e he).1, (early e he).2, ?_⟩
    -- The exit is recorded to its end once only.
    cases again : e.recorded? l.process with
    | none => rfl
    | some code' =>
        have done := before.recorded (by simp [he]) session again
        cases reader.symm.trans done
  exact waits.loses before follows recorded

/-! ### Exits reach whoever waits -/

/-- Of every entry that comes after a history until something is answered, the one that answers
included. -/
def UntilAnswer (c : KernelConfig) (h : History) (P : Entry → Prop) : Prop :=
  ∀ mid e m, Run c (h ++ (mid ++ [e])) m → (∀ d ∈ mid, d.answer? = none) → P e

/-- A refused call is answered with the exit, whatever comes before, and is not begun. -/
theorem Run.until_of_refuses (run : Run c h m) (refuses : m.Refuses code) :
  UntilAnswer c h fun e => (∀ n, e.request? n = none)
    ∧ ∀ a, e.answer? = some a → a = .failed (.kernelProcessExited code)
  := by
  intro mid e m' run' unanswered
  rw [← List.append_assoc] at run'
  obtain ⟨before, follows, rfl⟩ := Run.concat_iff.mp run'
  have refuses := run.refuses_until before unanswered refuses
  constructor
  · intro n
    cases request : e.request? n with
    | none => rfl
    | some cellId =>
        obtain ⟨src, l, -, begins⟩ := follows.begins request
        cases refuses with
        | calling _ live gone =>
            obtain rfl := Option.some.inj (live.symm.trans begins.live)
            cases begins.exited.symm.trans gone.exited
        | called stage =>
            rcases stage with stage | stage <;> cases stage.symm.trans begins.stage
  · intro a answer
    rcases refuses.step before.sound follows.transition with ⟨-, none⟩ | answers
    · cases none.symm.trans answer
    · exact Option.some.inj (answer.symm.trans answers)

/-- A start that is lost is answered with the exit, whatever comes before, and leaves nothing
behind. -/
theorem Run.until_of_loses (run : Run c h m) (loses : m.Loses code) :
  UntilAnswer c h fun e => ∀ a, e.answer? = some a →
    a = .failed (.kernelProcessExited code) ∧ e.after.stage = .idle
      ∧ Vacant e.after.live e.after.runtime
  := by
  intro mid e m' run' unanswered a answer
  rw [← List.append_assoc] at run'
  obtain ⟨before, follows, rfl⟩ := Run.concat_iff.mp run'
  rcases (run.loses_until before unanswered loses).step follows.transition with
    ⟨-, none⟩ | ⟨stage, answers, after⟩
  · cases none.symm.trans answer
  · refine ⟨Option.some.inj (answer.symm.trans answers), ?_⟩
    rw [after]
    exact ⟨rfl, before.sound.promises stage⟩

/-- An operation that waits for a session on which nobody is to wait need not wait. -/
theorem Manager.proceed_of_gone (session : m.session? = some l) (gone : l.Gone code)
    (waits : m.stage = .awaiting ∨ ∃ purpose, m.stage = .greeting purpose) :
  m.proceed.isSome = true
  := by
  rcases waits with stage | ⟨purpose, stage⟩
  · simp only [session?, stage] at session
    cases call : l.slot.call with
    | pending id => cases gone.pending id call
    | taken => cases gone.taken call
    | _ => simp [proceed, stage, session, call]
  · simp only [session?, stage] at session
    cases handshake : l.slot.handshake with
    | waiting => cases gone.handshake handshake
    | _ => simp [proceed, stage, session, handshake]

/-- Of exits and who waits for them, in any run:
an exit that is stored in a session is the one with which its process was reaped;
once it is recorded to its end, nobody waits on the session, and an operation does not wait either;
a call that is about to begin when the exit is stored is answered with it and not begun;
a call that was begun before the exit was recorded to its end is answered with it, unless a result
for its cell came before or something was answered, as it is when the time of the call is over; it is
answered at once exactly when its request is not being written any more, and while it is, nothing but
the end of that leads on, after which it is answered at once;
and so is a start, which leaves nothing behind, unless its session announced itself or its time was
over before. -/
theorem Run.exit_reaches (run : Run c h m) :
  (∀ l code, m.session? = some l → l.slot.exited = some code →
      ∃ d ∈ h, d.reaped? l.process = some code)
    ∧ (∀ l code, m.session? = some l → ∀ d ∈ h, d.recorded? l.process = some code →
      l.Gone code
        ∧ (m.stage = .awaiting ∨ (∃ purpose, m.stage = .greeting purpose) →
          m.proceed.isSome = true))
    ∧ (∀ src cellId l code, m.stage = .calling src cellId → m.live = some l →
      l.slot.exited = some code →
      m.settle 1 = some (.failed (.kernelProcessExited code))
        ∧ UntilAnswer c h fun e => (∀ n, e.request? n = none)
          ∧ ∀ a, e.answer? = some a → a = .failed (.kernelProcessExited code))
    ∧ (∀ (pre : History) (b : Entry) (mid₁ : History) (d : Entry) (mid₂ : History) (n : Nat)
      (cellId : Text) (code : Option Int), h = pre ++ b :: (mid₁ ++ d :: mid₂) →
      b.request? n = some cellId → (∀ e ∈ mid₁ ++ d :: mid₂, e.answer? = none) →
      d.recorded? n = some code → firstFor? cellId (mid₁.replies n) = none →
      (m.stage ≠ .sending → m.settle 1 = some (.failed (.kernelProcessExited code)))
        ∧ (m.stage = .sending → (∀ k, m.settle k = none)
          ∧ ∀ mv m' actions, m.move? mv = some (m', actions) →
            m'.stage = .sending ∧ answerAmong? actions = none
              ∨ (∃ ok, mv = .hear (.written ok))
                ∧ m'.settle 1 = some (.failed (.kernelProcessExited code)))
        ∧ UntilAnswer c h fun e =>
          ∀ a, e.answer? = some a → a = .failed (.kernelProcessExited code))
    ∧ (∀ (pre : History) (s : Entry) (mid₁ : History) (d : Entry) (mid₂ : History) (n : Nat)
      (code : Option Int), h = pre ++ s :: (mid₁ ++ d :: mid₂) → s.started? = some n →
      (∀ e ∈ mid₁, e.move ≠ .hear .expired ∧ ¬ e.Greets n) → d.recorded? n = some code →
      (∀ e ∈ mid₂, e.answer? = none) →
      m.settle 3 = some (.failed (.kernelProcessExited code))
        ∧ UntilAnswer c h fun e => ∀ a, e.answer? = some a →
          a = .failed (.kernelProcessExited code) ∧ e.after.stage = .idle
            ∧ Vacant e.after.live e.after.runtime)
  := by
  refine ⟨?_, ?_, ?_, ?_, ?_⟩
  · intro l code session exited
    obtain ⟨-, left, reader⟩ := (run.sound.session session).shut exited
    exact run.reaped_of_recording session reader
  · intro l code session d hd recorded
    have gone := (run.sound.session session).gone (run.recorded hd session recorded)
    exact ⟨gone, Manager.proceed_of_gone session gone⟩
  · intro src cellId l code stage live exited
    have refuses : m.Refuses code := by
      obtain ⟨k, holds, done, call⟩ := run.sound.promises stage
      obtain rfl := Option.some.inj (live.symm.trans holds.live)
      exact .calling stage live (holds.sound.gone_of_exited exited done call)
    exact ⟨refuses.settle (by rw [stage]; nofun), run.until_of_refuses refuses⟩
  · rintro pre b mid₁ d mid₂ n cellId code rfl request unanswered recorded others
    obtain ⟨first, second⟩ := run.of_middle
    have earlier : ∀ e ∈ mid₁ ++ [d], e.answer? = none := by
      intro e he
      apply unanswered
      rw [List.append_cons]
      exact List.mem_append_left _ he
    have refuses := first.refuses_of_recorded request earlier recorded others
    have refuses := first.refuses_until second (fun e he => unanswered e (by simp [he])) refuses
    refine ⟨refuses.settle, fun sending => ⟨?_, ?_⟩, ?_⟩
    · exact Manager.settle_of_waiting (Manager.proceed_of_sending sending)
    · intro mv m' actions possible
      exact refuses.of_sending run.sound sending (transition_of_move? possible)
    · intro mid e m' run' unanswered'
      exact (run.until_of_refuses refuses mid e m' run' unanswered').2
  · rintro pre s mid₁ d mid₂ n code rfl started early recorded unanswered
    obtain ⟨first, second⟩ := run.of_middle
    have loses := first.loses_of_recorded started recorded early
    have loses := first.loses_until second unanswered loses
    exact ⟨loses.settle, run.until_of_loses loses⟩

/-- A process leaves, and its exit is recorded to its end. -/
def Move.leaving (n : Nat) (code : Option Int) : List Move :=
  [.hear (.output n .ended), .hear (.output n (.exited code)), .hear (.output n .recorded),
    .hear (.output n .recorded), .hear (.output n .recorded), .hear (.output n .recorded)]

/-- The process of a session leaves with the code 3 while a call is pending, which is then answered. -/
def brokenMoves : List Move :=
  Move.starting 1 "a".toList ++ Move.beginning 1 ++ Move.leaving 1 (some 3) ++ [.proceed]

/-- The call is answered at once, with the code. -/
theorem exit_reaches_broken :
  ∃ e ∈ (History.played {} brokenMoves)[14]?,
    Run {} ((History.played {} brokenMoves).take 14) e.before
      ∧ e.before.settle 1 = some (.failed (.kernelProcessExited (some 3)))
      ∧ UntilAnswer {} ((History.played {} brokenMoves).take 14) fun e =>
        ∀ a, e.answer? = some a → a = .failed (.kernelProcessExited (some 3))
  := by
  obtain ⟨m, run⟩ := Run.played {} brokenMoves (by decide +kernel)
  have begun : ∃ b ∈ ((History.played {} brokenMoves).take 14)[6]?,
      b.request? 1 = some "a".toList := by decide +kernel
  have recorded : ∃ d ∈ (((History.played {} brokenMoves).take 14).drop 7)[6]?,
      d.recorded? 1 = some (some 3) := by decide +kernel
  have unanswered : ∀ e ∈ ((History.played {} brokenMoves).take 14).drop 7, e.answer? = none := by
    decide +kernel
  have goes : ∃ e ∈ (History.played {} brokenMoves)[14]?, e.before.proceed.isSome = true := by
    decide +kernel
  obtain ⟨b, hb, begun⟩ := begun
  obtain ⟨d, hd, recorded⟩ := recorded
  obtain ⟨e, he, goes⟩ := goes
  have split := History.split_at_place hb
  have split' := History.split_at_place hd
  rw [split'] at split unanswered
  have before := (run.at_place he).1
  obtain ⟨-, -, -, calls, -⟩ := before.exit_reaches
  obtain ⟨settles, -, answers⟩ := calls _ b _ d _ 1 "a".toList (some 3) split begun unanswered
    recorded (by decide +kernel)
  refine ⟨e, he, before, settles ?_, answers⟩
  intro sending
  rw [Manager.proceed_of_sending sending] at goes
  cases goes

/-- The process of a session leaves with the code 3 while the request of a call is being written. -/
def writingMoves : List Move :=
  Move.starting 1 "a".toList ++ (Move.beginning 1).take 3 ++ Move.leaving 1 (some 3)
    ++ [.hear (.written true)]

/-- Before the request is written, the call is not answered, although the exit is recorded to its end
and nothing else came of the process. -/
theorem not_exit_answered :
  ¬ ∀ (h : History) (m : Manager), Run {} h m →
    ∀ (pre : History) (b : Entry) (mid₁ : History) (d : Entry) (mid₂ : History) (n : Nat)
      (cellId : Text) (code : Option Int), h = pre ++ b :: (mid₁ ++ d :: mid₂) →
      b.request? n = some cellId → (∀ e ∈ mid₁ ++ d :: mid₂, e.answer? = none) →
      d.recorded? n = some code → firstFor? cellId (mid₁.replies n) = none →
      ∃ k, m.settle k = some (.failed (.kernelProcessExited code))
  := by
  intro answered
  obtain ⟨m, run⟩ := Run.played {} writingMoves (by decide +kernel)
  have begun : ∃ b ∈ ((History.played {} writingMoves).take 13)[6]?,
      b.request? 1 = some "a".toList := by decide +kernel
  have recorded : ∃ d ∈ (((History.played {} writingMoves).take 13).drop 7)[5]?,
      d.recorded? 1 = some (some 3) := by decide +kernel
  have unanswered : ∀ e ∈ ((History.played {} writingMoves).take 13).drop 7, e.answer? = none := by
    decide +kernel
  have waits : ∃ e ∈ (History.played {} writingMoves)[13]?, e.before.proceed.isNone = true := by
    decide +kernel
  obtain ⟨b, hb, begun⟩ := begun
  obtain ⟨d, hd, recorded⟩ := recorded
  obtain ⟨e, he, waits⟩ := waits
  have split := History.split_at_place hb
  have split' := History.split_at_place hd
  rw [split'] at split unanswered
  obtain ⟨k, settles⟩ := answered _ _ (run.at_place he).1 _ b _ d _ 1 "a".toList (some 3) split begun
    unanswered recorded (by decide +kernel)
  rw [Manager.settle_of_waiting (Option.isNone_iff_eq_none.mp waits)] at settles
  cases settles

end Session

end NotebookEngine
