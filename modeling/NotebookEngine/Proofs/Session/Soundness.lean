import NotebookEngine.Proofs.Session.Transition

/-!
# Sound managers

How the fields of a manager agree with its stage, and the slot of a session with its reader.

As long as no part of an exit has reached the calls of a session, its slot is `Open`; from then on
it is `Shut`. `Reader.Accords` says which of the two holds at every point of the recording, and
what the parts recorded so far have brought about. `Manager.Sound` adds what every stage promises:
which stages hold a session, whether it is known under its runtime, whether it has announced
itself, and whether a call may be under way. `Run.sound` says that every manager of a run is sound.
-/

namespace NotebookEngine

namespace Session

/-! ### Slots -/

namespace Slot

/-- No exit is stored, and nobody was answered with one. -/
structure Open (s : Slot) : Prop where
  exited : s.exited = none
  call : s.call ≠ .taken
  reply : ∀ e, s.call ≠ .answered (.error e)
  handshake : s.handshake ≠ .lost

/-- An exit with a code is stored; no call is pending any more, and one that failed was answered
with that exit. -/
structure Shut (s : Slot) (code : Option Int) : Prop where
  exited : s.exited = some code
  ready : s.ready = false
  call : ∀ cellId, s.call ≠ .pending cellId
  reply : ∀ e, s.call = .answered (.error e) → e = .kernelProcessExited code

variable {s : Slot}

theorem Open.complete (h : s.Open) (r : CellResult) :
  (s.complete r).Open
  := by
  unfold Slot.complete
  split
  · split
    · exact ⟨h.exited, nofun, nofun, h.handshake⟩
    · exact h
  · exact h

theorem Open.announce (h : s.Open) :
  s.announce.Open
  := by
  refine ⟨h.exited, h.call, h.reply, ?_⟩
  simp only [Slot.announce]
  split
  · nofun
  · exact h.handshake

/-- Lines leave an open slot open. -/
theorem Open.readLine (h : s.Open) (line : Text) :
  (s.readLine line).Open
  := by
  unfold Slot.readLine
  split
  case h_1 message _ =>
    cases message with
    | ready => apply h.announce
    | shutdownAcknowledged => exact ⟨h.exited, h.call, h.reply, h.handshake⟩
    | result r => apply h.complete
  case h_2 => exact h

/-- Storing an exit shuts an open slot that is not ready any more. -/
theorem Open.store (h : s.Open) (lowered : s.ready = false) (code : Option Int) :
  (s.record code .store).Shut code
  := by
  refine ⟨rfl, lowered, ?_, ?_⟩
  · intro cellId
    simp only [Slot.record]
    cases hcall : s.call <;> simp [Call.take]
  · intro e
    simp only [Slot.record]
    cases hcall : s.call with
    | answered reply =>
        intro answered
        exact absurd (hcall.trans answered) (h.reply e)
    | none => nofun
    | pending cellId => nofun
    | taken => nofun

/-- Answering the call that was taken leaves a shut slot shut, and the call is not in hand any
more. -/
theorem Shut.fail {code : Option Int} (h : s.Shut code) :
  (s.record code .fail).Shut code ∧ (s.record code .fail).call ≠ .taken
  := by
  obtain ⟨exited, ready, call, reply⟩ := h
  simp only [Slot.record]
  cases hcall : s.call with
  | none => exact ⟨⟨exited, ready, nofun, nofun⟩, nofun⟩
  | pending cellId => exact absurd hcall (call cellId)
  | taken =>
      refine ⟨⟨exited, ready, nofun, ?_⟩, nofun⟩
      rintro e ⟨⟩
      rfl
  | answered r =>
      refine ⟨⟨exited, ready, nofun, ?_⟩, nofun⟩
      intro e answered
      apply reply e (hcall.trans answered)

/-- Letting go of who waits for the session leaves a shut slot shut. -/
theorem Shut.dismiss {code : Option Int} (h : s.Shut code) :
  (s.record code .dismiss).Shut code ∧ (s.record code .dismiss).handshake ≠ .waiting
  := by
  refine ⟨⟨h.exited, h.ready, h.call, h.reply⟩, ?_⟩
  simp only [Slot.record]
  split
  · nofun
  · assumption

theorem Open.abandon (h : s.Open) :
  s.abandon.Open
  := ⟨h.exited, nofun, nofun, h.handshake⟩

theorem Shut.abandon {code : Option Int} (h : s.Shut code) :
  s.abandon.Shut code
  := ⟨h.exited, h.ready, nofun, nofun⟩

end Slot

/-! ### Calls -/

/-- What becomes of a call when its process does something that may bring a result. -/
inductive Call.Heard : Option CellResult → Call → Call → Prop
  /-- A result for another cell, or with no call pending, changes nothing. -/
  | same {x? : Option CellResult} {c : Call} (other : ∀ x ∈ x?, c ≠ .pending x.cellId) :
    Heard x? c c
  | answered {x : CellResult} :
    Heard (some x) (.pending x.cellId) (.answered (.ok x.normalize))
  | taken {cellId : Text} : Heard Option.none (.pending cellId) .taken
  | failed {code : Option Int} :
    Heard Option.none .taken (.answered (.error (.kernelProcessExited code)))

/-- Hearing something neither begins a call nor forgets it. -/
theorem Call.Heard.eq_none_iff {x? : Option CellResult} {c c' : Call} (h : c.Heard x? c') :
  c' = .none ↔ c = .none
  := by
  cases h <;> simp

/-- A call that is answered stays so. -/
theorem Call.Heard.eq_answered {x? : Option CellResult} {reply : Reply} {c : Call}
    (h : Call.Heard x? (.answered reply) c) :
  c = .answered reply
  := by
  cases h
  rfl

/-- What becomes of a handshake when the process of its session does something. -/
inductive Handshake.Heard : Output → Handshake → Handshake → Prop
  | same {o : Output} {k : Handshake} : Heard o k k
  | greeted {octets : Bytes}
      (ready : (Utf8.decode? octets).map Message.ofLine = some (.ok .ready)) :
    Heard (.line octets) .waiting .done
  | dismissed : Heard .recorded .waiting .lost

theorem Handshake.Heard.eq_done {o : Output} {k : Handshake} (h : Handshake.Heard o .done k) :
  k = .done
  := by
  cases h
  rfl

theorem Handshake.Heard.line_of_done {o : Output} {k : Handshake} (h : k.Heard o .done) :
  k = .done
    ∨ ∃ octets, o = .line octets ∧ (Utf8.decode? octets).map Message.ofLine = some (.ok .ready)
  := by
  cases h with
  | same => exact .inl rfl
  | greeted ready => exact .inr ⟨_, rfl, ready⟩

/-- A result that is dispatched answers the call that is pending for its cell, and no other. -/
theorem Slot.dispatch_result_call (s : Slot) (x : CellResult) :
  Call.Heard (some x) s.call (s.dispatch (.result x)).call
  := by
  simp only [Slot.dispatch, Slot.complete, CellResult.normalize_cellId]
  split
  case h_1 cellId hcall =>
    split
    case isTrue same =>
      rw [hcall, same]
      exact .answered
    case isFalse other =>
      rw [hcall]
      apply Call.Heard.same
      rintro _ ⟨⟩ ⟨⟩
      apply other rfl
  case h_2 hcall =>
    apply Call.Heard.same
    rintro y - pending
    apply hcall y.cellId pending

/-! ### Sessions -/

/-- What the slot of a session holds at every point of its reader. -/
inductive Reader.Accords : Reader → Slot → Prop
  | reading {s : Slot} (slot : s.Open) : Accords .reading s
  | reaping {s : Slot} (slot : s.Open) : Accords .reaping s
  | reaped {s : Slot} {code : Option Int} (slot : s.Open) :
    Accords (.recording code [.lower, .store, .fail, .dismiss]) s
  | lowered {s : Slot} {code : Option Int} (slot : s.Open) (ready : s.ready = false) :
    Accords (.recording code [.store, .fail, .dismiss]) s
  | stored {s : Slot} {code : Option Int} (slot : s.Shut code) (handshake : s.handshake ≠ .lost) :
    Accords (.recording code [.fail, .dismiss]) s
  | failed {s : Slot} {code : Option Int} (slot : s.Shut code) (call : s.call ≠ .taken)
      (handshake : s.handshake ≠ .lost) : Accords (.recording code [.dismiss]) s
  | done {s : Slot} {code : Option Int} (slot : s.Shut code) (call : s.call ≠ .taken)
      (handshake : s.handshake ≠ .waiting) : Accords (.recording code []) s

/-- A slot that is open or shut as another one, and agrees with it otherwise, accords with the same
readers. -/
theorem Reader.Accords.congr {r : Reader} {s s' : Slot} (h : r.Accords s) (opens : s.Open → s'.Open)
    (shuts : ∀ code, s.Shut code → s'.Shut code) (ready : s'.ready = s.ready)
    (call : s.call ≠ .taken → s'.call ≠ .taken) (handshake : s'.handshake = s.handshake) :
  r.Accords s'
  := by
  cases h with
  | reading slot => exact .reading (opens slot)
  | reaping slot => exact .reaping (opens slot)
  | reaped slot => exact .reaped (opens slot)
  | lowered slot hready => exact .lowered (opens slot) (ready.trans hready)
  | stored slot hhandshake => exact .stored (shuts _ slot) (handshake ▸ hhandshake)
  | failed slot hcall hhandshake =>
      exact .failed (shuts _ slot) (call hcall) (handshake ▸ hhandshake)
  | done slot hcall hhandshake => exact .done (shuts _ slot) (call hcall) (handshake ▸ hhandshake)

/-- The slot of the session agrees with its reader. -/
def Live.Sound (l : Live) : Prop :=
  l.reader.Accords l.slot

/-- The exit of the process is stored with a code, and nobody waits on the session. -/
structure Live.Gone (l : Live) (code : Option Int) : Prop where
  exited : l.slot.exited = some code
  ready : l.slot.ready = false
  pending : ∀ cellId, l.slot.call ≠ .pending cellId
  taken : l.slot.call ≠ .taken
  handshake : l.slot.handshake ≠ .waiting

namespace Live

variable {l : Live}

theorem notice_process (o : Output) :
  (l.notice o).process = l.process
  := by
  cases o <;> simp only [notice] <;> split <;> rfl

theorem notice_runtime (o : Output) :
  (l.notice o).runtime = l.runtime
  := by
  cases o <;> simp only [notice] <;> split <;> rfl

@[simp]
theorem hear_process (n : Nat) (o : Output) :
  (l.hear n o).process = l.process
  := by
  unfold hear
  split
  · apply notice_process
  · rfl

@[simp]
theorem hear_runtime (n : Nat) (o : Output) :
  (l.hear n o).runtime = l.runtime
  := by
  unfold hear
  split
  · apply notice_runtime
  · rfl

/-- What an output does to the call of the session. -/
theorem notice_call (o : Output) :
  Call.Heard (l.heard? o) l.slot.call (l.notice o).slot.call
  := by
  cases o with
  | line octets =>
      simp only [notice, heard?]
      cases hreader : l.reader with
      | reading =>
          cases Utf8.decode? octets with
          | none => exact .same nofun
          | some line =>
              simp only [Slot.readLine, Option.map_some]
              cases Message.ofLine line with
              | error f => exact .same nofun
              | ok message =>
                  cases message with
                  | ready => exact .same nofun
                  | shutdownAcknowledged => exact .same nofun
                  | result x => exact l.slot.dispatch_result_call x
      | reaping => exact .same nofun
      | recording code left => exact .same nofun
  | ended => exact .same nofun
  | exited code =>
      simp only [notice]
      split <;> exact .same nofun
  | recorded =>
      simp only [notice]
      split
      case h_1 code p left reader =>
        cases p with
        | lower => exact .same nofun
        | store =>
            cases hcall : l.slot.call with
            | pending cellId => simpa [Slot.record, hcall] using .taken
            | none => simpa [Slot.record, hcall] using .same nofun
            | taken => simpa [Slot.record, hcall] using .same nofun
            | answered reply => simpa [Slot.record, hcall] using .same nofun
        | fail =>
            cases hcall : l.slot.call with
            | taken => simpa [Slot.record, hcall] using .failed
            | none => simpa [Slot.record, hcall] using .same nofun
            | pending cellId => simpa [Slot.record, hcall] using .same nofun
            | answered reply => simpa [Slot.record, hcall] using .same nofun
        | dismiss => exact .same nofun
      case h_2 => exact .same nofun

/-- A session whose exit is recorded to its end takes no notice of anything. -/
theorem hear_of_done {code : Option Int} (reader : l.reader = .recording code []) (n : Nat)
    (o : Output) :
  l.hear n o = l
  := by
  obtain ⟨runtime, process, _, slot⟩ := l
  obtain rfl := reader
  unfold hear
  split
  · cases o <;> rfl
  · rfl

/-- What the process `n` does to the call of the session; another process does nothing to it. -/
theorem hear_call (n : Nat) (o : Output) :
  Call.Heard (if l.process = n then l.heard? o else none) l.slot.call (l.hear n o).slot.call
  := by
  unfold hear
  split
  · apply notice_call
  · exact .same nofun

theorem hear_call_eq_none_iff (n : Nat) (o : Output) :
  (l.hear n o).slot.call = .none ↔ l.slot.call = .none
  := (hear_call n o).eq_none_iff

/-- What a process does to the handshake of its session. -/
theorem notice_handshake (o : Output) :
  l.slot.handshake.Heard o (l.notice o).slot.handshake
  := by
  cases o with
  | line octets =>
      simp only [notice]
      split
      case h_1 line _ decodes =>
        simp only [Slot.readLine]
        split
        case h_1 message reads =>
          cases message with
          | ready =>
              simp only [Slot.dispatch, Slot.announce]
              split
              · rename_i waiting
                rw [waiting]
                exact .greeted (by rw [decodes, Option.map_some, reads])
              · exact .same
          | shutdownAcknowledged => exact .same
          | result x =>
              simp only [Slot.dispatch, Slot.complete]
              split
              · split <;> exact .same
              · exact .same
        case h_2 => exact .same
      case h_2 => exact .same
      case h_3 => exact .same
  | ended => exact .same
  | exited code =>
      simp only [notice]
      split <;> exact .same
  | recorded =>
      simp only [notice]
      split
      case h_1 code p left _ =>
        cases p with
        | dismiss =>
            simp only [Slot.record]
            split
            · rename_i waiting
              rw [waiting]
              exact .dismissed
            · exact .same
        | lower | store | fail => exact .same
      case h_2 => exact .same

/-- A session that has announced itself has done so for good. -/
theorem hear_handshake_done (done : l.slot.handshake = .done) (n : Nat) (o : Output) :
  (l.hear n o).slot.handshake = .done
  := by
  unfold hear
  split
  case isFalse => exact done
  case isTrue =>
    have heard := l.notice_handshake o
    rw [done] at heard
    exact heard.eq_done

/-- A session has announced itself by a line, if it had not before. -/
theorem greets_of_hear {n : Nat} {o : Output} (done : (l.hear n o).slot.handshake = .done) :
  l.slot.handshake = .done
    ∨ l.process = n ∧ ∃ octets, o = .line octets
      ∧ (Utf8.decode? octets).map Message.ofLine = some (.ok .ready)
  := by
  unfold hear at done
  split at done
  case isFalse => exact .inl done
  case isTrue same =>
    have heard := l.notice_handshake o
    rw [done] at heard
    rcases heard.line_of_done with before | line
    · exact .inl before
    · exact .inr ⟨same, line⟩

theorem Sound.stop (h : l.Sound) :
  Sound { l with reader := l.reader.stop }
  := by
  obtain ⟨runtime, process, reader, slot⟩ := l
  cases h with
  | reading slot => exact .reaping slot
  | reaping slot => exact .reaping slot
  | reaped slot => exact .reaped slot
  | lowered slot ready => exact .lowered slot ready
  | stored slot handshake => exact .stored slot handshake
  | failed slot call handshake => exact .failed slot call handshake
  | done slot call handshake => exact .done slot call handshake

/-- Every part of an exit that is recorded leads to the next point of the recording. -/
theorem Sound.recorded (h : l.Sound) :
  (l.notice .recorded).Sound
  := by
  simp only [notice]
  split
  case h_1 code p left reader =>
    rw [Sound, reader] at h
    cases h with
    | reaped slot => exact .lowered ⟨slot.exited, slot.call, slot.reply, slot.handshake⟩ rfl
    | lowered slot ready => exact .stored (slot.store ready code) slot.handshake
    | stored slot handshake => exact .failed slot.fail.1 slot.fail.2 handshake
    | failed slot call handshake => exact .done slot.dismiss.1 call slot.dismiss.2
  case h_2 => exact h

/-- Whatever a process does, its session stays sound. -/
theorem Sound.notice (h : l.Sound) (o : Output) :
  (l.notice o).Sound
  := by
  cases o with
  | line octets =>
      simp only [Live.notice]
      split
      case h_1 line reader _ =>
        rw [Sound, reader] at h ⊢
        cases h with
        | reading slot => exact .reading (slot.readLine line)
      case h_2 reader _ =>
        rw [Sound, reader] at h
        cases h with
        | reading slot => exact .reaping slot
      case h_3 => exact h
  | ended => apply h.stop
  | exited code =>
      simp only [Live.notice]
      split
      case h_1 reader =>
        rw [Sound, reader] at h
        cases h with
        | reaping slot => exact .reaped slot
      case h_2 => exact h
  | recorded => apply h.recorded

/-- A session stays sound when its call is given up. -/
theorem Sound.abandon (h : l.Sound) :
  Sound { l with slot := l.slot.abandon }
  := Reader.Accords.congr h Slot.Open.abandon (fun _ => Slot.Shut.abandon) rfl (fun _ => nofun) rfl

/-- A session stays sound when a call begins, which it only does while no exit is stored. -/
theorem Sound.begin (h : l.Sound) (exited : l.slot.exited = none) (cellId : Text) :
  Sound { l with slot := { l.slot with call := .pending cellId } }
  := by
  apply Reader.Accords.congr h
  · intro slot
    exact ⟨slot.exited, nofun, nofun, slot.handshake⟩
  · intro code slot
    cases exited.symm.trans slot.exited
  · rfl
  · nofun
  · rfl

/-- Once an exit is stored, the slot is shut, and the reader is recording that exit. -/
theorem Sound.shut (h : l.Sound) {code : Option Int} (exited : l.slot.exited = some code) :
  l.slot.Shut code ∧ ∃ left, l.reader = .recording code left
  := by
  obtain ⟨runtime, process, reader, slot⟩ := l
  cases h with
  | reading slot => cases exited.symm.trans slot.exited
  | reaping slot => cases exited.symm.trans slot.exited
  | reaped slot => cases exited.symm.trans slot.exited
  | lowered slot => cases exited.symm.trans slot.exited
  | stored slot =>
      cases exited.symm.trans slot.exited
      exact ⟨slot, _, rfl⟩
  | failed slot =>
      cases exited.symm.trans slot.exited
      exact ⟨slot, _, rfl⟩
  | done slot =>
      cases exited.symm.trans slot.exited
      exact ⟨slot, _, rfl⟩

/-- Once an exit is recorded in all its parts, nobody waits on the session. -/
theorem Sound.gone (h : l.Sound) {code : Option Int} (reader : l.reader = .recording code []) :
  l.Gone code
  := by
  rw [Sound, reader] at h
  cases h with
  | done slot call handshake => exact ⟨slot.exited, slot.ready, slot.call, call, handshake⟩

/-- Nobody waits on a session that has announced itself and has no call, once an exit is stored. -/
theorem Sound.gone_of_exited (h : l.Sound) {code : Option Int} (exited : l.slot.exited = some code)
    (done : l.slot.handshake = .done) (call : l.slot.call = .none) :
  l.Gone code
  := by
  obtain ⟨shut, -⟩ := h.shut exited
  refine ⟨exited, shut.ready, shut.call, ?_, ?_⟩
  · rw [call]
    nofun
  · rw [done]
    nofun

/-- A session on which nobody waits stays so, whatever its process does. -/
theorem Gone.hear {code : Option Int} (gone : l.Gone code) (sound : l.Sound) (n : Nat) (o : Output) :
  (l.hear n o).Gone code
  := by
  obtain ⟨-, left, recording⟩ := sound.shut gone.exited
  obtain ⟨runtime, process, reader, slot⟩ := l
  obtain rfl : reader = .recording code left := recording
  unfold Live.hear
  split
  case isFalse => exact gone
  case isTrue =>
    cases o with
    | line octets => exact gone
    | ended => exact gone
    | exited _ => exact gone
    | recorded =>
        cases left with
        | nil => exact gone
        | cons p left =>
            obtain ⟨exited, ready, pending, taken, handshake⟩ := gone
            cases p with
            | lower => exact ⟨exited, rfl, pending, taken, handshake⟩
            | store =>
                have call : slot.call.take = slot.call := by
                  cases hcall : slot.call with
                  | pending id => cases pending id hcall
                  | _ => rfl
                refine ⟨rfl, ready, ?_, ?_, handshake⟩ <;> simpa [notice, Slot.record, call]
            | fail =>
                have call : slot.call.fail code = slot.call := by
                  cases hcall : slot.call with
                  | taken => cases taken hcall
                  | _ => rfl
                refine ⟨exited, ready, ?_, ?_, handshake⟩ <;> simpa [notice, Slot.record, call]
            | dismiss =>
                have same : (slot.record code .dismiss).handshake = slot.handshake :=
                  if_neg handshake
                exact ⟨exited, ready, pending, taken, same ▸ handshake⟩

/-- Whoever waits for a session is let go only when the exit is recorded in all its parts. -/
theorem Sound.done_of_lost (h : l.Sound) (lost : l.slot.handshake = .lost) :
  ∃ code, l.reader = .recording code []
  := by
  obtain ⟨runtime, process, reader, slot⟩ := l
  cases h with
  | reading slot => exact absurd lost slot.handshake
  | reaping slot => exact absurd lost slot.handshake
  | reaped slot => exact absurd lost slot.handshake
  | lowered slot => exact absurd lost slot.handshake
  | stored _ handshake => exact absurd lost handshake
  | failed _ _ handshake => exact absurd lost handshake
  | @done _ code => exact ⟨code, rfl⟩

theorem Sound.hear (h : l.Sound) (n : Nat) (o : Output) :
  (l.hear n o).Sound
  := by
  unfold Live.hear
  split
  · apply h.notice
  · exact h

/-- A session that has just been started is sound. -/
theorem sound_new (runtime : Text) (n : Nat) :
  Sound { runtime, process := n }
  := .reading ⟨rfl, nofun, nofun, nofun⟩

end Live

/-! ### Managers -/

/-- No session is held, and no runtime is known. -/
structure Vacant (live : Option Live) (runtime : Option Text) : Prop where
  live : live = none
  runtime : runtime = none

/-- A sound session is held and known under its runtime. -/
structure Holds (live : Option Live) (runtime : Option Text) (l : Live) : Prop where
  live : live = some l
  runtime : runtime = some l.runtime
  sound : l.Sound

variable {live : Option Live} {runtime : Option Text} {l : Live}

theorem Vacant.hear (h : Vacant live runtime) (n : Nat) (o : Output) :
  Vacant (live.map (·.hear n o)) runtime
  := by
  obtain ⟨rfl, rfl⟩ := h
  exact ⟨rfl, rfl⟩

theorem Holds.hear (h : Holds live runtime l) (n : Nat) (o : Output) :
  Holds (live.map (·.hear n o)) runtime (l.hear n o)
  := by
  obtain ⟨rfl, rfl, sound⟩ := h
  refine ⟨rfl, ?_, sound.hear n o⟩
  rw [Live.hear_runtime]

/-- What every stage promises of the session that is held and of the runtime that is known. -/
def Stage.Promises (live : Option Live) (runtime : Option Text) : Stage → Prop
  | .idle =>
    Vacant live runtime
      ∨ ∃ l, Holds live runtime l ∧ l.slot.handshake = .done ∧ l.slot.call = .none
  | .closed _ | .preparing _ _ | .spawning _ _ => Vacant live runtime
  | .asking l _ | .leaving l _ | .killed l _ => Vacant live runtime ∧ l.Sound
  | .greeting _ => ∃ l, Holds live runtime l ∧ l.slot.call = .none
  | .calling _ _ => ∃ l, Holds live runtime l ∧ l.slot.handshake = .done ∧ l.slot.call = .none
  | .sending | .awaiting =>
    ∃ l, Holds live runtime l ∧ l.slot.handshake = .done ∧ l.slot.call ≠ .none

namespace Manager

/-- What the stage promises holds. -/
def Sound (m : Manager) : Prop :=
  m.stage.Promises m.live m.runtime

variable {m m' : Manager} {mv : Move} {actions : List Action}

/-- A sound manager in a stage keeps the promises of that stage. -/
theorem Sound.promises {s : Stage} (sound : m.Sound) (stage : m.stage = s) :
  s.Promises m.live m.runtime
  := stage ▸ sound

/-- A sound manager holds a session that is known under its runtime, or nothing at all. -/
theorem Sound.held (sound : m.Sound) :
  Vacant m.live m.runtime ∨ ∃ l, Holds m.live m.runtime l
  := by
  have promises := sound.promises rfl
  cases stage : m.stage <;> rw [stage] at promises
  case idle => exact promises.imp_right fun ⟨l, holds, _⟩ => ⟨l, holds⟩
  case asking | leaving | killed => exact .inl promises.1
  case closed | preparing | spawning => exact .inl promises
  case greeting | calling | sending | awaiting =>
    obtain ⟨l, holds, _⟩ := promises
    exact .inr ⟨l, holds⟩

/-- The session that a sound manager listens to is sound. -/
theorem Sound.session (sound : m.Sound) {l : Live} (session : m.session? = some l) :
  l.Sound
  := by
  have live (h : m.live = some l) : l.Sound := by
    rcases sound.held with vacant | ⟨k, holds⟩
    · cases vacant.live.symm.trans h
    · obtain rfl := Option.some.inj (holds.live.symm.trans h)
      exact holds.sound
  cases stage : m.stage <;> simp only [session?, stage] at session
  case asking | leaving | killed =>
    obtain rfl := Option.some.inj session
    exact (sound.promises stage).2
  all_goals exact live session

/-- Whatever a process does, the manager stays sound. -/
theorem Sound.notice (sound : m.Sound) (n : Nat) (o : Output) :
  (m.notice n o).Sound
  := by
  have promises := sound.promises rfl
  cases stage : m.stage with
  | idle =>
      simp only [Sound, Manager.notice, stage] at promises ⊢
      rcases promises with vacant | ⟨l, holds, done, call⟩
      · exact .inl (vacant.hear n o)
      · exact .inr ⟨_, holds.hear n o, l.hear_handshake_done done n o,
          (l.hear_call_eq_none_iff n o).mpr call⟩
  | closed _ | preparing _ _ | spawning _ _ =>
      simp only [Sound, Manager.notice, stage] at promises ⊢
      exact Vacant.hear promises n o
  | asking l _ | leaving l _ | killed l _ =>
      simp only [Sound, Manager.notice, stage] at promises ⊢
      exact ⟨promises.1, promises.2.hear n o⟩
  | greeting _ =>
      simp only [Sound, Manager.notice, stage] at promises ⊢
      obtain ⟨l, holds, call⟩ := promises
      exact ⟨_, holds.hear n o, (l.hear_call_eq_none_iff n o).mpr call⟩
  | calling _ _ =>
      simp only [Sound, Manager.notice, stage] at promises ⊢
      obtain ⟨l, holds, done, call⟩ := promises
      exact ⟨_, holds.hear n o, l.hear_handshake_done done n o,
        (l.hear_call_eq_none_iff n o).mpr call⟩
  | sending | awaiting =>
      simp only [Sound, Manager.notice, stage] at promises ⊢
      obtain ⟨l, holds, done, call⟩ := promises
      exact ⟨_, holds.hear n o, l.hear_handshake_done done n o,
        fun none => call ((l.hear_call_eq_none_iff n o).mp none)⟩

/-- Closing its session leaves a manager sound. -/
theorem Sound.close (sound : m.Sound) (next : Sequel) :
  (m.close next).1.Sound
  := by
  rcases sound.held with h | ⟨l, h⟩
  · simp only [Manager.close, h.live]
    exact ⟨rfl, rfl⟩
  · simp only [Manager.close, h.live]
    split <;> exact ⟨⟨rfl, rfl⟩, h.sound⟩

/-- An operation that is over leaves a sound manager. -/
theorem Sound.finish {a : Answer} (sound : m.Sound) (why : Finishes m mv a) :
  Sound { m with stage := .idle }
  := by
  cases why with
  | closed _ stage | unprepared stage | unspawned stage => exact .inl (sound.promises stage)
  | unknown stage => exact sound.promises stage
  | greeted _ stage live done =>
      obtain ⟨l, holds, call⟩ := sound.promises stage
      obtain rfl := Option.some.inj (live.symm.trans holds.live)
      exact .inr ⟨_, holds, done, call⟩
  | absent _ stage | refused _ stage => exact .inr (sound.promises stage)

/-- A transition leads from a sound manager to a sound one. -/
theorem Sound.transition (sound : m.Sound) (step : Transition m mv m' actions) :
  m'.Sound
  := by
  cases step with
  | ignored => exact sound
  | noticed => apply sound.notice
  | closing why => apply sound.close
  | kept stage alive fits =>
      rcases sound.promises stage with vacant | held
      · simp [isAlive, vacant.live] at alive
      · exact held
  | finished why => apply sound.finish why
  | left _ stage reader =>
      rcases stage with stage | stage
      · exact (sound.promises stage).1
      · exact (sound.promises stage).1
  | preparing _ stage | spawning _ stage | prepared stage =>
      have vacant := sound.promises stage
      exact vacant
  | spawned stage => exact ⟨_, ⟨rfl, rfl, Live.sound_new _ _⟩, rfl⟩
  | greeted _ stage live done =>
      obtain ⟨l, holds, call⟩ := sound.promises stage
      obtain rfl := Option.some.inj (live.symm.trans holds.live)
      exact ⟨_, holds, done, call⟩
  | begun _ stage live exited =>
      obtain ⟨l, holds, done, call⟩ := sound.promises stage
      obtain rfl := Option.some.inj (live.symm.trans holds.live)
      exact ⟨_, ⟨rfl, holds.runtime, holds.sound.begin exited _⟩, done, nofun⟩
  | sent stage =>
      have called := sound.promises stage
      exact called
  | ended stage live why =>
      obtain ⟨l, holds, done, call⟩ := sound.promises stage
      obtain rfl := Option.some.inj (live.symm.trans holds.live)
      exact .inr ⟨_, ⟨rfl, holds.runtime, holds.sound.abandon⟩, done, rfl⟩
  | asked stage =>
      have closing := sound.promises stage
      exact closing
  | killed stage =>
      obtain ⟨vacant, hl⟩ := sound.promises stage
      exact ⟨vacant, hl.stop⟩

end Manager

/-- Every manager of a run is sound. -/
theorem Run.sound {c : KernelConfig} {h : History} {m : Manager} (run : Run c h m) :
  m.Sound
  := by
  induction run with
  | new => exact .inl ⟨rfl, rfl⟩
  | move _ follows sound => apply sound.transition follows.transition

end Session

end NotebookEngine
