import NotebookEngine.Proofs.Session.Processes

/-!
# Calls under way

From the entry that begins a call to the one that answers it, a call is `Underway`: nothing else is
taken up, answered, started or begun, and what has become of the call can be read off the results
that were dispatched since (`Call.Fits`). The first of them that is for the cell of the call answers
it (`firstFor?`), and none of the others counts.

`Underway.step` says what one move does to a call under way. From it come two readings of a run:
`Run.underway` finds the entry that began the call, and `Run.underway_of_request` follows a call that
was begun as long as nothing is answered.
-/

namespace NotebookEngine

namespace Session

variable {m m' : Manager} {mv : Move} {actions : List Action} {c : KernelConfig}
  {h pre mid : History} {b : Entry} {code cellId : Text} {l : Live}

/-- The first result for a cell. -/
def firstFor? (cellId : Text) (xs : List CellResult) : Option CellResult :=
  xs.find? fun x => x.cellId = cellId

/-- What has become of a call for a cell after the results dispatched since it was begun. -/
def Call.Fits (cellId : Text) (xs : List CellResult) : Call → Prop
  | .none => False
  | .pending id => id = cellId ∧ firstFor? cellId xs = Option.none
  | .taken => firstFor? cellId xs = Option.none
  | .answered (.ok r) => ∃ x, firstFor? cellId xs = some x ∧ r = x.normalize
  | .answered (.error _) => firstFor? cellId xs = Option.none

/-! ### Results -/

theorem firstFor?_eq_some_iff {xs : List CellResult} {x : CellResult} :
  firstFor? cellId xs = some x
    ↔ x.cellId = cellId
      ∧ ∃ before after, xs = before ++ x :: after ∧ ∀ y ∈ before, y.cellId ≠ cellId
  := by
  simp [firstFor?, List.find?_eq_some_iff_append]

theorem firstFor?_eq_none_iff {xs : List CellResult} :
  firstFor? cellId xs = none ↔ ∀ x ∈ xs, x.cellId ≠ cellId
  := by
  simp [firstFor?]

theorem firstFor?_append {xs ys : List CellResult} :
  firstFor? cellId (xs ++ ys) = (firstFor? cellId xs).or (firstFor? cellId ys)
  := List.find?_append

/-- The first result for a cell comes with an entry, and none for the cell came before it. -/
theorem firstFor?_replies {n : Nat} {x : CellResult}
    (first : firstFor? cellId (mid.replies n) = some x) :
  x.cellId = cellId
    ∧ ∃ (mid₁ : History) (d : Entry) (mid₂ : History),
      mid = mid₁ ++ d :: mid₂ ∧ d.reply? n = some x ∧ ∀ y ∈ mid₁.replies n, y.cellId ≠ cellId
  := by
  obtain ⟨cell, before, after, replies, others⟩ := firstFor?_eq_some_iff.mp first
  obtain ⟨mid₀, rest, rfl, rfl, hrest⟩ := List.filterMap_eq_append_iff.mp replies
  obtain ⟨mid₁, d, mid₂, rfl, silent, reply, -⟩ := List.filterMap_eq_cons_iff.mp hrest
  refine ⟨cell, mid₀ ++ mid₁, d, mid₂, ?_, reply, ?_⟩
  · rw [List.append_assoc]
  · intro y hy
    rw [History.replies_append, List.mem_append] at hy
    rcases hy with hy | hy
    · exact others y hy
    · obtain ⟨e, he, heq⟩ := List.mem_filterMap.mp hy
      cases (silent e he).symm.trans heq

/-- Results for other cells leave the first one for a cell as it is. -/
theorem firstFor?_append_of_other {xs : List CellResult} {x? : Option CellResult}
    (other : ∀ x ∈ x?, x.cellId ≠ cellId) :
  firstFor? cellId (xs ++ x?.toList) = firstFor? cellId xs
  := by
  rw [firstFor?_append]
  cases x? with
  | none => exact Option.or_none
  | some x =>
      have none : firstFor? cellId [x] = Option.none := by
        simpa [firstFor?] using other x rfl
      rw [Option.toList_some, none, Option.or_none]

/-- What a process does fits the call to the results dispatched so far. A call that the exit has in
hand, or was answered with it, gets no more results. -/
theorem Call.Fits.heard {xs : List CellResult} {x? : Option CellResult} {k k' : Call}
    (fits : k.Fits cellId xs) (heard : k.Heard x? k')
    (alert : ∀ x ∈ x?, k ≠ .taken ∧ ∀ e, k ≠ .answered (.error e)) :
  k'.Fits cellId (xs ++ x?.toList)
  := by
  cases heard with
  | @same _ k other =>
      cases k with
      | none => cases fits
      | pending id =>
          obtain ⟨rfl, first⟩ := fits
          refine ⟨rfl, (firstFor?_append_of_other ?_).trans first⟩
          rintro x hx rfl
          apply other x hx rfl
      | taken =>
          apply Eq.trans (firstFor?_append_of_other _) fits
          intro x hx
          cases (alert x hx).1 rfl
      | answered reply =>
          cases reply with
          | ok r =>
              obtain ⟨x, first, hr⟩ := fits
              refine ⟨x, ?_, hr⟩
              rw [firstFor?_append, first, Option.some_or]
          | error e =>
              apply Eq.trans (firstFor?_append_of_other _) fits
              intro x hx
              cases (alert x hx).2 e rfl
  | @answered x =>
      obtain ⟨rfl, first⟩ := fits
      refine ⟨x, ?_, rfl⟩
      rw [firstFor?_append, first, Option.none_or]
      simp [firstFor?]
  | taken =>
      rw [Option.toList_none, List.append_nil]
      exact fits.2
  | failed =>
      rw [Option.toList_none, List.append_nil]
      exact fits

/-- A session that brings a result has not begun to record an exit. -/
theorem Live.Sound.alert (sound : l.Sound) {o : Output} {x : CellResult}
    (heard : l.heard? o = some x) :
  l.slot.call ≠ .taken ∧ ∀ e, l.slot.call ≠ .answered (.error e)
  := by
  obtain ⟨runtime, process, reader, slot⟩ := l
  have reading : reader = .reading := by
    unfold heard? at heard
    split at heard
    · split at heard
      · assumption
      · cases heard
    · cases heard
  cases sound with
  | reading slot => exact ⟨slot.call, slot.reply⟩
  | _ => cases reading

/-! ### Beginnings -/

/-- The entry begins a call in a session. -/
structure Entry.Begins (e : Entry) (code cellId : Text) (l : Live) : Prop where
  own : e.move.IsOwn
  stage : e.before.stage = .calling code cellId
  live : e.before.live = some l
  exited : l.slot.exited = none
  after : e.after
    = { e.before with live := some { l with slot := { l.slot with call := .pending cellId } },
                      stage := .sending }
  actions : e.actions = [.write (Request.execute code cellId).line]

/-- A call is under way after an entry because it was before, or because the entry begins it. -/
theorem Transition.begins (step : Transition m mv m' actions)
    (stage : m'.stage = .sending ∨ m'.stage = .awaiting) :
  (m.stage = .sending ∨ m.stage = .awaiting)
    ∨ ∃ code cellId l, (Entry.mk m mv m' actions).Begins code cellId l
  := by
  cases step with
  | ignored => exact .inl stage
  | noticed =>
      left
      cases before : m.stage <;> simp_all [Manager.notice]
  | begun own before live exited => exact .inr ⟨_, _, _, own, before, live, exited, rfl, rfl⟩
  | sent before => exact .inl (.inl before)
  | @closing _ next why =>
      rcases m.close_stage next with closed | ⟨_, closed | closed⟩ <;> simp_all
  | _ => simp_all

/-- A request goes to a process by the beginning of a call in its session, and in no other way. -/
theorem Entry.Follows.begins {e : Entry} {n : Nat} (follows : e.Follows h)
    (request : e.request? n = some cellId) :
  ∃ code l, l.process = n ∧ e.Begins code cellId l
  := by
  unfold Entry.request? at request
  split at request
  case h_2 => cases request
  case h_1 code id l before after live =>
    split at request
    case isFalse => cases request
    case isTrue process =>
      obtain rfl := Option.some.inj request
      rcases follows.transition.begins (.inl after) with under | ⟨code', id', l', begins⟩
      · rcases under with stage | stage <;> cases before.symm.trans stage
      · obtain ⟨rfl, rfl⟩ := Stage.calling.inj (before.symm.trans begins.stage)
        obtain rfl := Option.some.inj (live.symm.trans begins.live)
        exact ⟨code, l, process, begins⟩

/-! ### Calls under way -/

/-- A call for a cell is under way in the session `l`: it was begun by `b`, and `mid` has come
since. -/
structure Underway (b : Entry) (mid : History) (cellId : Text) (l : Live) (m : Manager) : Prop where
  stage : m.stage = .sending ∨ m.stage = .awaiting
  live : m.live = some l
  begun : b.request? l.process = some cellId
  quiet : ∀ e ∈ mid, e.Quiet
  call : l.slot.call.Fits cellId (mid.replies l.process)

/-- A call that has just been begun is under way. -/
theorem Entry.Begins.underway (begins : b.Begins code cellId l) :
  Underway b [] cellId { l with slot := { l.slot with call := .pending cellId } } b.after
  := by
  refine ⟨?_, ?_, ?_, List.forall_mem_nil _, rfl, rfl⟩
  · exact .inl (by rw [begins.after])
  · rw [begins.after]
  · simp [Entry.request?, begins.stage, begins.live, begins.after]

namespace Underway

theorem isOpen (under : Underway b mid cellId l m) :
  m.stage.isOpen = true
  := by
  rcases under.stage with stage | stage <;> simp only [stage, Stage.isOpen]

/-- While a call is under way, an entry that does not answer is quiet. -/
theorem quiet_entry (under : Underway b mid cellId l m) (answer : answerAmong? actions = none) :
  (Entry.mk m mv m' actions).Quiet
  := by
  refine ⟨?_, answer, ?_, ?_⟩
  · apply Entry.call?_of_busy
    intro op _ idle
    rcases under.stage with stage | stage <;> cases stage.symm.trans idle
  · apply Entry.started?_of_unasked
    intro n runtime purpose _ spawning
    rcases under.stage with stage | stage <;> cases stage.symm.trans spawning
  · apply Entry.request?_of_stage
    intro code id calling
    rcases under.stage with stage | stage <;> cases stage.symm.trans calling

/-- An entry that changes neither the session nor brings a result leaves the call under way. -/
theorem still (under : Underway b mid cellId l m) (stage : m'.stage = .sending ∨ m'.stage = .awaiting)
    (live : m'.live = m.live) (answer : answerAmong? actions = none)
    (silent : ∀ n o, mv ≠ .hear (.output n o)) :
  Underway b (mid ++ [⟨m, mv, m', actions⟩]) cellId l m'
  := by
  refine ⟨stage, live.trans under.live, under.begun, ?_, ?_⟩
  · intro e he
    rcases List.mem_append.mp he with he | he
    · exact under.quiet e he
    · rw [List.mem_singleton.mp he]
      apply under.quiet_entry answer
  · rw [History.replies_concat, Entry.reply?_of_no_output silent, Option.toList_none,
      List.append_nil]
    exact under.call

/-- What a process does leaves the call under way. -/
theorem notice (under : Underway b mid cellId l m) (sound : l.Sound) (n : Nat) (o : Output) :
  Underway b (mid ++ [⟨m, .hear (.output n o), m.notice n o, []⟩]) cellId (l.hear n o)
    (m.notice n o)
  := by
  have noticed := Manager.notice_of_isOpen under.isOpen under.live n o
  refine ⟨by rw [noticed]; exact under.stage, by rw [noticed], ?_, ?_, ?_⟩
  · rw [Live.hear_process]
    exact under.begun
  · intro e he
    rcases List.mem_append.mp he with he | he
    · exact under.quiet e he
    · rw [List.mem_singleton.mp he]
      apply under.quiet_entry rfl
  · have reply : (Entry.mk m (.hear (.output n o)) (m.notice n o) []).reply? l.process
        = if l.process = n then l.heard? o else none := by
      simp [Entry.reply?, under.live, eq_comm]
    rw [Live.hear_process, History.replies_concat, reply]
    apply under.call.heard (l.hear_call n o)
    intro x hx
    split at hx
    · exact sound.alert hx
    · cases hx

/-- While a call is under way, the session is sound. -/
theorem sound (under : Underway b mid cellId l m) (sound : m.Sound) :
  Holds m.live m.runtime l ∧ l.slot.handshake = .done
  := by
  have promises : ∃ l, Holds m.live m.runtime l ∧ l.slot.handshake = .done
      ∧ l.slot.call ≠ .none := by
    rcases under.stage with stage | stage <;> exact sound.promises stage
  obtain ⟨l', holds, done, -⟩ := promises
  obtain rfl := Option.some.inj (under.live.symm.trans holds.live)
  exact ⟨holds, done⟩

/-- While a call is under way, the manager listens to its session. -/
theorem session (under : Underway b mid cellId l m) :
  m.session? = some l
  := (Manager.session?_of_isOpen under.isOpen).trans under.live

/-- A move ends the call that is under way or leaves it under way. -/
theorem step (under : Underway b mid cellId l m) (sound : m.Sound)
    (step : Transition m mv m' actions) :
  (∃ l', l'.process = l.process
      ∧ Underway b (mid ++ [⟨m, mv, m', actions⟩]) cellId l' m'
      ∧ answerAmong? actions = none)
    ∨ ∃ a, m.stage = .awaiting ∧ Ends m l mv a ∧ actions = [.answer a]
        ∧ m' = { m with live := some { l with slot := l.slot.abandon }, stage := .idle }
  := by
  cases step with
  | @ignored e call spawned output =>
      refine .inl ⟨l, rfl, under.still under.stage rfl rfl ?_, rfl⟩
      intro n o move
      apply output n o (Move.hear.inj move)
  | @noticed n o =>
      exact .inl ⟨l.hear n o, l.hear_process n o, under.notice (under.sound sound).1.sound n o, rfl⟩
  | sent stage => exact .inl ⟨l, rfl, under.still (.inr rfl) rfl rfl nofun, rfl⟩
  | @ended _ l' a stage live why =>
      obtain rfl := Option.some.inj (under.live.symm.trans live)
      exact .inr ⟨a, stage, why, rfl, rfl⟩
  | closing why =>
      rcases under.stage with stage | stage <;> cases why <;> simp_all
  | finished why =>
      rcases under.stage with stage | stage <;> cases why <;> simp_all
  | left _ other => rcases under.stage with stage | stage <;> simp_all
  | _ => rcases under.stage with stage | stage <;> simp_all

end Underway

/-! ### Runs -/

/-- A call that is under way was begun in the history. -/
theorem Run.underway (run : Run c h m) (stage : m.stage = .sending ∨ m.stage = .awaiting) :
  ∃ pre b mid cellId l, h = pre ++ b :: mid ∧ Underway b mid cellId l m
  := by
  induction run with
  | new => simp at stage
  | @move h e run follows ih =>
      rcases follows.transition.begins stage with before | ⟨code, cellId, l, begins⟩
      · obtain ⟨pre, b, mid, cellId, l, rfl, under⟩ := ih before
        rcases under.step run.sound follows.transition with ⟨l', -, under', -⟩ | ⟨a, -, -, -, after⟩
        · refine ⟨pre, b, mid ++ [e], cellId, l', ?_, under'⟩
          rw [List.append_assoc, List.cons_append]
        · simp [after] at stage
      · exact ⟨h, e, [], cellId, _, rfl, begins.underway⟩

/-- A call that was begun is under way until something is answered. -/
theorem Run.underway_of_request {n : Nat} (run : Run c (pre ++ b :: mid) m)
    (request : b.request? n = some cellId) (unanswered : ∀ e ∈ mid, e.answer? = none) :
  ∃ l, l.process = n ∧ Underway b mid cellId l m
  := by
  induction mid using List.reverseRecOn generalizing m with
  | nil =>
      obtain ⟨-, follows, rfl⟩ := Run.concat_iff.mp run
      obtain ⟨code, l, rfl, begins⟩ := follows.begins request
      refine ⟨_, ?_, begins.underway⟩
      rfl
  | append_singleton mid e ih =>
      rw [← List.cons_append, ← List.append_assoc] at run
      obtain ⟨before, follows, rfl⟩ := Run.concat_iff.mp run
      obtain ⟨l, process, under⟩ := ih before fun d hd => unanswered d (List.mem_append_left _ hd)
      rcases under.step before.sound follows.transition with
        ⟨l', same, under', -⟩ | ⟨a, -, -, answers, -⟩
      · exact ⟨l', same.trans process, under'⟩
      · have answer : e.answer? = some a := by rw [Entry.answer?, answers, answerAmong?]
        cases answer.symm.trans (unanswered e (by simp))

/-! ### Returns -/

/-- A call is begun for the operation under way. -/
theorem Entry.Begins.operation (begins : b.Begins code cellId l) (run : Run c h b.before) :
  ∃ runtime, h.operation? = some (.execute code cellId runtime)
  := by
  have serves := run.serves
  rw [begins.stage] at serves
  obtain ⟨-, -, runtime, -, operation⟩ := serves
  exact ⟨runtime, operation⟩

/-- A call under way is one of the operation under way, as it was when the call was begun. -/
theorem Underway.operation (under : Underway b mid cellId l m) (run : Run c (pre ++ b :: mid) m) :
  ∃ code runtime, pre.operation? = some (.execute code cellId runtime)
    ∧ History.operation? (pre ++ b :: mid) = pre.operation?
  := by
  obtain ⟨before, follows⟩ := run.at_entry
  obtain ⟨code, k, -, begins⟩ := follows.begins under.begun
  obtain ⟨runtime, operation⟩ := begins.operation before
  refine ⟨code, runtime, operation, History.operation?_append ?_⟩
  intro e he
  rcases List.mem_cons.mp he with rfl | he
  · refine ⟨Entry.call?_of_own begins.own, ?_⟩
    rw [Entry.answer?, begins.actions]
    rfl
  · exact ⟨(under.quiet e he).call, (under.quiet e he).answer⟩

/-- An operation that returns a result has a call under way, and the result is the first one for its
cell since the call was begun, in normal form. -/
theorem Run.result_underway {e : Entry} {runtime : Text} {y : CellResult} (run : Run c h e.before)
    (follows : e.Follows h) (returns : e.Returns h (.execute code cellId runtime) (.result y)) :
  ∃ (pre : History) (b : Entry) (mid : History) (l : Live) (x : CellResult),
    h = pre ++ b :: mid ∧ Underway b mid cellId l e.before
    ∧ pre.operation? = some (.execute code cellId runtime)
    ∧ firstFor? cellId (mid.replies l.process) = some x ∧ y = x.normalize
  := by
  obtain ⟨operation, answer⟩ := returns
  obtain ⟨m, mv, m', actions⟩ := e
  rcases follows.answers answer with ⟨why, -⟩ | ⟨l, stage, live, why, -⟩
  · cases why with
    | closed own stage =>
        have serves := run.serves
        rw [stage] at serves
        obtain ⟨_, -, ⟨⟩⟩ := serves
  · rw [Entry.call?_of_own why.own, Option.none_or] at operation
    obtain ⟨pre, b, mid, id, k, rfl, under⟩ := run.underway (.inr stage)
    obtain rfl := Option.some.inj (live.symm.trans under.live)
    obtain ⟨code', runtime', begun, same⟩ := under.operation run
    obtain ⟨rfl, rfl, rfl⟩ :=
      Operation.execute.inj (Option.some.inj (operation.symm.trans (same.trans begun)))
    have call : l.slot.call = .answered (.ok y) := by
      generalize ha : Answer.result y = a at why
      cases why with
      | @replied _ reply _ call =>
          cases reply with
          | ok r =>
              cases ha
              exact call
          | error e => cases ha
      | dropped => cases ha
      | expired => cases ha
    have fits := under.call
    rw [call] at fits
    obtain ⟨x, first, hy⟩ := fits
    exact ⟨pre, b, mid, l, x, rfl, under, begun, first, hy⟩

end Session

end NotebookEngine
