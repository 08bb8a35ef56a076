import Mathlib.Tactic.Common
import NotebookEngine.Host.Launch

/-!
# Machines that go on

A machine goes on by itself: processes do what they do next, in any order, and time passes
(`Machine.GoesOn`). Waiting is one way of going on (`Machine.waitUntil_goesOn`). Whatever a machine
does, its clock does not go back, and the number that the next process will have does not get
smaller (`Machine.Later`). So a process that is started has a number that no process had before.
-/

namespace NotebookEngine

namespace Host

namespace Machine

variable {m m₁ m₂ : Machine} {p : Process}

/-- The clock has not gone back, and the numbers of processes have not. -/
structure Later (m m' : Machine) : Prop where
  now : m.now ≤ m'.now
  next : m.nextProcess ≤ m'.nextProcess

namespace Later

@[refl]
theorem refl (m : Machine) :
  m.Later m
  := ⟨Nat.le_refl _, Nat.le_refl _⟩

theorem trans (h₁ : m.Later m₁) (h₂ : m₁.Later m₂) :
  m.Later m₂
  := ⟨Nat.le_trans h₁.now h₂.now, Nat.le_trans h₁.next h₂.next⟩

end Later

/-! ### Changes that take no time -/

theorem setPipe_later (n : Nat) (p : Pipe) :
  m.Later (m.setPipe n p)
  := ⟨Nat.le_refl _, Nat.le_refl _⟩

theorem setProcess_later (p : Process) :
  m.Later (m.setProcess p)
  := ⟨Nat.le_refl _, Nat.le_refl _⟩

theorem finish_later (id : Nat) (status : ExitStatus) :
  m.Later (m.finish id status)
  := ⟨Nat.le_refl _, Nat.le_refl _⟩

theorem forget_later (id : Nat) :
  m.Later (m.forget id)
  := ⟨Nat.le_refl _, Nat.le_refl _⟩

theorem release_later (n : Nat) :
  m.Later (m.release n)
  := ⟨Nat.le_refl _, Nat.le_refl _⟩

theorem deliver_later (p : Process) (signal : Nat) :
  m.Later (m.deliver p signal)
  := by
  unfold deliver
  split
  · rfl
  · split
    · apply finish_later
    · split
      · rfl
      · apply setProcess_later
      · split
        · rfl
        · apply finish_later

theorem kill_later (id : Nat) :
  m.Later (m.kill id)
  := by
  unfold kill
  split
  · split
    · rfl
    · apply deliver_later
  · rfl

theorem goOn_later (id : Nat) (b : Behaviour) :
  m.Later (m.goOn id b)
  := by
  unfold goOn
  split
  · rfl
  · split
    · rfl
    · apply setProcess_later

/-! ### Requests -/

theorem readFrom_later {h : Handle} {line : Bool} {a : Except Fault Octets}
    (read : m.readFrom h line = some (a, m₁)) :
  m.Later m₁
  := by
  unfold readFrom at read
  split at read
  case h_4 n =>
    dsimp only at read
    split at read
    · cases read
    · cases read
      apply setPipe_later
  case h_5 n =>
    split at read
    · split at read
      · cases read
        rfl
      · split at read <;> cases read
        · exact ⟨Nat.le_refl _, Nat.le_refl _⟩
        · rfl
        · rfl
    · cases read
      rfl
  all_goals
    cases read
    rfl

theorem writeTo_later {h : Handle} {octets : Octets} {a : Except Fault Unit}
    (written : m.writeTo h octets = (a, m₁)) :
  m.Later m₁
  := by
  unfold writeTo at written
  split at written
  case h_3 n =>
    split at written <;> cases written
    · apply setPipe_later
    · rfl
  case h_4 n =>
    split at written
    · split at written
      · cases written
        rfl
      · split at written <;> cases written
        · exact ⟨Nat.le_refl _, Nat.le_refl _⟩
        · rfl
    · cases written
      rfl
  all_goals
    cases written
    rfl

theorem openAt_later {here : Path} {path : Octets} {access : Access} {h : Handle}
    (opened : m.openAt here path access = .ok (m₁, h)) :
  m.Later m₁
  := by
  unfold openAt at opened
  dsimp only at opened
  split at opened
  · cases found : m.files.find here path with
    | error f => simp [found, bind, Except.bind] at opened
    | ok entry =>
        simp only [found, bind, Except.bind] at opened
        split at opened
        · cases opened
          rfl
        · split at opened <;> cases opened
          exact ⟨Nat.le_refl _, Nat.le_refl _⟩
  · cases opens : m.files.openForWriting here path usualMode (access = .writing) with
    | error f => simp [opens, bind, Except.bind] at opened
    | ok entry =>
        simp only [opens, bind, Except.bind] at opened
        split at opened <;> cases opened
        · rfl
        · exact ⟨Nat.le_refl _, Nat.le_refl _⟩

theorem waitFor_later {id : Nat} {child : Option Nat} {a : Option (Nat × ExitStatus)}
    (waited : m.waitFor id child = some (a, m₁)) :
  m.Later m₁
  := by
  simp only [waitFor] at waited
  split at waited
  · cases waited
    rfl
  · split at waited
    · cases waited
    · cases waited
      exact ⟨Nat.le_refl _, Nat.le_refl _⟩

theorem changed_later {files : Except Fault Files} {a : Except Fault Unit}
    (changes : m.changed files = (a, m₁)) :
  m.Later m₁
  := by
  cases files <;> cases changes <;> exact ⟨Nat.le_refl _, Nat.le_refl _⟩

/-- To serve a request takes no time. -/
theorem serve_later {r : Request} {a : r.Answer} (served : m.serve p r = some (a, m₁)) :
  m.Later m₁
  := by
  cases r <;> simp only [serve] at served
  case read file line =>
    split at served
    · cases served
      rfl
    · exact readFrom_later served
  case write file octets =>
    split at served
    · cases served
      rfl
    · exact writeTo_later (Option.some.inj served)
  case openFile path access =>
    split at served
    · cases served
      rfl
    · rename_i m' h opened
      cases served
      exact (openAt_later opened).trans (setProcess_later _)
  case wait child => exact waitFor_later served
  case signal id number =>
    split at served <;> cases served
    · rfl
    · split
      · rfl
      · apply deliver_later
  case execute path arguments environment =>
    split at served <;> cases served
    rfl
  case makeDirectory | removeDirectory | remove | rename | changeMode =>
    exact changed_later (Option.some.inj served)
  case close | sleep | dispose | caughtSignals =>
    cases served
    apply setProcess_later
  case pipe =>
    cases served
    exact ⟨Nat.le_refl _, Nat.le_refl _⟩
  case self | inspect | currentDirectory =>
    cases served
    rfl
  case copyTo | keep =>
    split at served <;> cases served
    · rfl
    · apply setProcess_later
  case list | changeDirectory =>
    split at served <;> cases served
    all_goals exact ⟨Nat.le_refl _, Nat.le_refl _⟩

/-! ### Steps -/

theorem branch_later (p : Process) (child : Behaviour) :
  m.Later (m.branch p child)
  := ⟨Nat.le_refl _, Nat.le_succ _⟩

theorem attend_later {r : Request} {next : r.Answer → Behaviour}
    (attended : m.attend p r next = some m₁) :
  m.Later m₁
  := by
  unfold attend at attended
  split at attended
  · rename_i answer m' served
    cases attended
    exact (serve_later served).trans (goOn_later _ _)
  · split at attended
    · obtain ⟨b, -, rfl⟩ := Option.map_eq_some_iff.mp attended
      apply setProcess_later
    · cases attended

/-- What a process does takes no time. -/
theorem step_later (step : m.step p = some m₁) :
  m.Later m₁
  := by
  unfold Machine.step at step
  split at step
  · cases step
  · split at step
    · cases step
      apply finish_later
    · cases step
      apply setProcess_later
    · cases step
    · cases step
      exact (branch_later _ _).trans (setProcess_later _)
    · split at step
      · cases step
        apply setProcess_later
      · split at step
        · cases step
          apply setProcess_later
        · cases step
    · split at step
      · rename_i m' served
        have later := serve_later served
        split at step <;> cases step
        · exact later.trans (finish_later _ _)
        · exact later.trans (goOn_later _ _)
      · rename_i m' _ served
        cases step
        exact (serve_later served).trans (goOn_later _ _)
      · cases step
    · exact attend_later step

/-! ### Going on -/

/-- What may become of a machine while the host does nothing: processes do what they do next, in any
order, and time passes. -/
inductive GoesOn (m : Machine) : Machine → Prop
  | here : GoesOn m m
  | acts {id : Nat} {m₁ m₂ : Machine} (goes : GoesOn m m₁)
      (acted : (m₁.process? id).bind m₁.step = some m₂) : GoesOn m m₂
  | passes {t : Nat} {m₁ : Machine} (goes : GoesOn m m₁) (later : m₁.now ≤ t) :
    GoesOn m { m₁ with now := t }

namespace GoesOn

theorem trans (h₁ : m.GoesOn m₁) (h₂ : m₁.GoesOn m₂) :
  m.GoesOn m₂
  := by
  induction h₂ with
  | here => exact h₁
  | acts _ acted ih => exact ih.acts acted
  | passes _ later ih => exact ih.passes later

/-- A machine that goes on does not go back. -/
theorem later (goes : m.GoesOn m₁) :
  m.Later m₁
  := by
  induction goes with
  | here => rfl
  | acts _ acted ih =>
      obtain ⟨p, -, step⟩ := Option.bind_eq_some_iff.mp acted
      exact ih.trans (step_later step)
  | passes _ later ih => exact ih.trans ⟨later, Nat.le_refl _⟩

end GoesOn

theorem turn_goesOn (id steps : Nat) :
  m.GoesOn (turn id steps m).2
  := by
  induction steps generalizing m with
  | zero => exact .here
  | succ n ih =>
      unfold turn
      split
      · exact .here
      · rename_i m' acted
        exact (GoesOn.here.acts acted).trans ih

theorem round_goesOn :
  m.GoesOn m.round.2
  := by
  unfold round
  apply List.foldlRecOn (motive := fun s : Bool × Machine => m.GoesOn s.2)
  · exact .here
  · rintro ⟨moved, m'⟩ goes p -
    exact goes.trans (turn_goesOn p.id turnLength)

theorem settle_goesOn :
  m.GoesOn m.settle
  := by
  unfold settle
  generalize settlingRounds = n
  induction n generalizing m with
  | zero => exact .here
  | succ n ih =>
      unfold settleIn
      dsimp only
      split
      · exact round_goesOn.trans ih
      · exact round_goesOn

/-- While one waits, the machine goes on. -/
theorem waitUntil_goesOn (deadline : Option Nat) (stop : Machine → Bool) :
  m.GoesOn (m.waitUntil deadline stop)
  := by
  unfold waitUntil
  generalize wakingLimit = n
  induction n generalizing m with
  | zero => exact .here
  | succ n ih =>
      have passes (m : Machine) (t : Nat) : m.GoesOn { m with now := max m.now t } :=
        GoesOn.here.passes (Nat.le_max_left _ _)
      unfold waitIn
      apply settle_goesOn.trans
      dsimp only
      split
      · exact .here
      · split
        · exact .here
        · split
          · apply passes
          · exact (passes _ _).trans ih
        · exact (passes _ _).trans ih
        · apply passes

/-! ### Starting a process -/

/-- A process that is started has the next number, and the machine goes on to the one after it. -/
theorem start_later {here : Path} {environment : Environment} {fed : Bool} {program : Octets}
    {arguments : List Octets} {s : Started}
    (started : m.start here environment fed program arguments = .ok (m₁, s)) :
  s.process = m.nextProcess ∧ m.now ≤ m₁.now ∧ m₁.nextProcess = m.nextProcess + 1
  := by
  simp only [start, bind, Except.bind] at started
  by_cases null : ((program :: arguments).any fun a => a.contains '\x00') = true
  · rw [if_pos null] at started
    cases started
  · rw [if_neg null] at started
    cases resolved : m.resolve here program environment with
    | error f => simp [resolved] at started
    | ok path =>
        cases loaded : m.program here path (program :: arguments) environment with
        | error f => simp [resolved, loaded] at started
        | ok behaviour =>
            simp only [resolved, loaded] at started
            obtain ⟨rfl, rfl⟩ := Prod.mk.inj (Except.ok.inj started)
            exact ⟨rfl, Nat.le_refl _, rfl⟩

end Machine

end Host

end NotebookEngine
