import Mathlib.Tactic.Common
import NotebookEngine.Backend.Performance
import NotebookEngine.Backend.Scripted

/-!
# Results of plans

A plan yields values of a kind if every value to which it can come is of that kind, whatever the
host answers (`Plan.Yields`). What a backend yields is a result of the cell it runs, in normal shape
(`Compiled.plan_yields`, `Scripted.plainPlan_yields`, `Scripted.typedPlan_yields`), so this is also
what comes of the plan on any machine (`Plan.Yields.perform`).
-/

namespace NotebookEngine

/-- The result is one of a cell, in normal shape. -/
structure CellResult.IsOf (cellId : Text) (r : CellResult) : Prop where
  cell : r.cellId = cellId
  normal : r.Normal

namespace CellResult

theorem isOf_ok (cellId : Text) (value : Option Text) (stdout stderr : Text) :
  (ok cellId value stdout stderr).IsOf cellId
  := ⟨rfl, normal_ok _ _ _ _⟩

theorem isOf_failed (cellId : Text) (failure : Failure) (stdout stderr : Text) :
  (failed cellId failure stdout stderr).IsOf cellId
  := ⟨rfl, normal_failed _ _ _ _⟩

end CellResult

/-! ### Plans -/

namespace Plan

variable {α β : Type} {P Q : α → Prop} {p : Plan α}

/-- Every value to which the plan can come is of a kind, whatever the host answers. -/
def Yields (P : α → Prop) : Plan α → Prop
  | .done a => P a
  | .register _ next => next.Yields P
  | .makeDirectory _ next => ∀ r, (next r).Yields P
  | .write _ _ next => ∀ r, (next r).Yields P
  | .read _ next => ∀ r, (next r).Yields P
  | .run _ _ next => ∀ r, (next r).Yields P
  | .remove _ next => next.Yields P

/-- A plan that goes on yields what it yields from every value to which it has come. -/
theorem Yields.bind {R : β → Prop} {f : α → Plan β} (yields : p.Yields P)
    (goes : ∀ a, P a → (f a).Yields R) :
  (p.bind f).Yields R
  := by
  induction p with
  | done a => apply goes a yields
  | register path next ih | remove path next ih => apply ih yields
  | makeDirectory path next ih | read path next ih =>
      intro r
      apply ih r (yields r)
  | write path content next ih =>
      intro r
      apply ih r (yields r)
  | run command limit next ih =>
      intro r
      apply ih r (yields r)

theorem Yields.mono (yields : p.Yields P) (implies : ∀ a, P a → Q a) :
  p.Yields Q
  := by
  have same : (p.bind .done).Yields Q := yields.bind implies
  rwa [p.bind_done] at same

theorem yields_true (p : Plan α) :
  p.Yields fun _ => True
  := by
  induction p with
  | done a => trivial
  | register path next ih | remove path next ih => exact ih
  | makeDirectory path next ih | read path next ih => exact ih
  | write path content next ih => exact ih
  | run command limit next ih => exact ih

/-- The removal of files has nothing to do with the value. -/
theorem yields_removeAll (paths : List Text) :
  (removeAll paths p).Yields P ↔ p.Yields P
  := by
  induction paths with
  | nil => rfl
  | cons path paths ih => exact ih

/-- On a machine, a plan comes to a value of the kind that it yields. -/
theorem Yields.perform (yields : p.Yields P) (site : Host.Site) (m : Host.Machine) :
  P (p.perform site m).1
  := by
  induction p generalizing m with
  | done a => exact yields
  | register path next ih | remove path next ih => apply ih yields
  | makeDirectory path next ih | read path next ih => apply ih _ (yields _)
  | write path content next ih => apply ih _ (yields _)
  | run command limit next ih => apply ih _ (yields _)

end Plan

/-! ### Works -/

namespace Work

variable {α β : Type} {P : α → Prop} {R : β → Prop}

/-- A work that does not fail comes to a value of a kind. -/
def Yields (P : α → Prop) (w : Work α) : Prop :=
  ∀ s, (w s).Yields fun r => ∀ a, r.1 = .ok a → P a

theorem yields_pure {a : α} (holds : P a) :
  Yields P (pure a : Work α)
  := by
  rintro s _ ⟨⟩
  apply holds

/-- A work that goes on comes to what it goes on to. -/
theorem Yields.bind {w : Work α} {f : α → Work β} (yields : w.Yields P)
    (goes : ∀ a, P a → (f a).Yields R) :
  Yields R (w >>= f)
  := by
  intro s
  apply Plan.Yields.bind (yields s)
  rintro ⟨r, s⟩ holds
  cases r with
  | ok a => apply goes a (holds a rfl)
  | error e => nofun

/-- Whatever a work comes to, it may go on from it. -/
theorem yields_bind {w : Work α} {f : α → Work β} (goes : ∀ a, (f a).Yields R) :
  Yields R (w >>= f)
  := by
  have anything : w.Yields fun _ => True := by
    intro s
    apply (Plan.yields_true (w s)).mono
    intros
    trivial
  exact anything.bind fun a _ => goes a

/-- What is done from a fresh staging comes to what the work comes to, or to an early failure. -/
theorem Yields.run {w : Work CellResult} {cellId : Text} (yields : w.Yields (·.IsOf cellId))
    (s : Staging) :
  (w.run s cellId).Yields (·.IsOf cellId)
  := by
  apply Plan.Yields.bind (yields s)
  rintro ⟨r, s⟩ holds
  rw [Plan.yields_removeAll]
  cases r with
  | ok r => apply holds r rfl
  | error e => apply CellResult.isOf_failed

end Work

/-! ### Backends -/

variable (config : Config) (code cellId : Text)

theorem Report.isOf_result (output : ProcessOutput) (report : Report) :
  (report.result cellId output).IsOf cellId
  := by
  cases report with
  | ok value => apply CellResult.isOf_ok
  | error thrown => apply CellResult.isOf_failed

namespace Compiled

theorem isOf_finished (output : ProcessOutput) (written : Option Text) :
  (finished cellId output written).IsOf cellId
  := by
  cases written with
  | none => apply CellResult.isOf_failed
  | some written => apply CellResult.isOf_ok

/-- The work of a compiled fragment comes to a result of its cell. -/
theorem work_yields (compiler : Text) :
  (work config compiler code cellId).Yields (·.IsOf cellId)
  := by
  unfold work
  apply Work.yields_bind
  intro resultPath
  apply Work.yields_bind
  intro binary
  apply Work.yields_bind
  intro source
  apply Work.yields_bind
  intro compiled
  split
  case isTrue =>
    apply Work.yields_pure
    apply CellResult.isOf_failed
  case isFalse =>
    apply Work.yields_bind
    intro output
    split
    case isTrue =>
      apply Work.yields_pure
      apply CellResult.isOf_failed
    case isFalse =>
      split
      case isTrue =>
        apply Work.yields_pure
        apply CellResult.isOf_ok
      case isFalse =>
        apply Work.yields_bind
        intro written
        apply Work.yields_pure
        apply isOf_finished

/-- So does its plan, with a compiler or without. -/
theorem plan_yields (compiler : Option Text) (id : Text) :
  (plan config compiler id code cellId).Yields (·.IsOf cellId)
  := by
  cases compiler with
  | none => apply CellResult.isOf_failed
  | some compiler => apply (work_yields config code cellId compiler).run

end Compiled

namespace Scripted

theorem isOf_plainResult (output : ProcessOutput) (report : Option Report) :
  (plainResult cellId output report).IsOf cellId
  := by
  cases report with
  | none => apply CellResult.isOf_failed
  | some report => apply report.isOf_result

theorem isOf_typedResult (output : ProcessOutput) (report : Option Report) :
  (typedResult cellId output report).IsOf cellId
  := by
  cases report with
  | none =>
      unfold typedResult
      dsimp only
      split
      · apply CellResult.isOf_failed
      · apply CellResult.isOf_failed
  | some report => apply report.isOf_result

/-- The work of a plain script comes to a result of its cell. -/
theorem plainWork_yields (runtime : Text) :
  (plainWork config runtime code cellId).Yields (·.IsOf cellId)
  := by
  unfold plainWork
  apply Work.yields_bind
  intro resultPath
  apply Work.yields_bind
  intro userPath
  apply Work.yields_bind
  intro executorPath
  apply Work.yields_bind
  intro output
  split
  case isTrue =>
    apply Work.yields_pure
    apply CellResult.isOf_failed
  case isFalse =>
    apply Work.yields_bind
    intro report
    apply Work.yields_pure
    apply isOf_plainResult

/-- The work of a typed script comes to a result of its cell. -/
theorem typedWork_yields (runtime : Text) :
  (typedWork config runtime code cellId).Yields (·.IsOf cellId)
  := by
  unfold typedWork
  apply Work.yields_bind
  intro resultPath
  apply Work.yields_bind
  intro modulePath
  apply Work.yields_bind
  intro output
  split
  case h_1 =>
    apply Work.yields_pure
    apply CellResult.isOf_failed
  case h_2 =>
    apply Work.yields_bind
    intro report
    apply Work.yields_pure
    apply isOf_typedResult

/-- So do the plans, with a runtime or without. -/
theorem plainPlan_yields (runtime : Option Text) (id : Text) :
  (plainPlan config runtime id code cellId).Yields (·.IsOf cellId)
  := by
  cases runtime with
  | none => apply CellResult.isOf_failed
  | some runtime => apply (plainWork_yields config code cellId runtime).run

theorem typedPlan_yields (runtime : Option Text) (id : Text) :
  (typedPlan config runtime id code cellId).Yields (·.IsOf cellId)
  := by
  cases runtime with
  | none => apply CellResult.isOf_failed
  | some runtime => apply (typedWork_yields config code cellId runtime).run

end Scripted

end NotebookEngine
