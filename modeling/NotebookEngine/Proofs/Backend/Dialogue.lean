import NotebookEngine.Backend.Performance
import NotebookEngine.Backend.Staging

/-!
# Dialogues

A plan has a dialogue with the host that carries it out: what is asked and what is answered, up to
the value to which the plan comes (`Plan.Dialogue`). Every answer is possible, so what holds of all
dialogues holds whatever compilers, programs and files do. A machine has such a dialogue
(`Plan.dialogue_perform`), and so has every host that has its answers (`Plan.exists_dialogue`).

A dialogue is read from its beginning: each part of a work has asked its request and then gone on, or
failed with what the host refused (`Work.dialogue_execute`, `Work.dialogue_write`).
-/

namespace NotebookEngine

namespace Plan

/-- A request to the host, with its answer. -/
inductive Exchange where
  | makeDirectory (path : Text) (answer : Except Host.Fault Unit)
  | write (path content : Text) (answer : Except Host.Fault Unit)
  | read (path : Text) (answer : Except Host.Fault Text)
  | run (command : Command) (limit : Nat) (answer : Except Host.Fault ProcessOutput)

/-- The dialogues of a plan, with the values to which it comes. That a path is registered or a file is
removed has no answer. -/
inductive Dialogue {α : Type} : Plan α → List Exchange → α → Prop
  | done (a : α) :
    Dialogue (.done a) [] a
  | register {path : Text} {next : Plan α} {xs : List Exchange} {a : α}
      (goes : Dialogue next xs a) :
    Dialogue (.register path next) xs a
  | makeDirectory {path : Text} {next : Except Host.Fault Unit → Plan α} {xs : List Exchange}
      {a : α} (answer : Except Host.Fault Unit) (goes : Dialogue (next answer) xs a) :
    Dialogue (.makeDirectory path next) (.makeDirectory path answer :: xs) a
  | write {path content : Text} {next : Except Host.Fault Unit → Plan α} {xs : List Exchange}
      {a : α} (answer : Except Host.Fault Unit) (goes : Dialogue (next answer) xs a) :
    Dialogue (.write path content next) (.write path content answer :: xs) a
  | read {path : Text} {next : Except Host.Fault Text → Plan α} {xs : List Exchange} {a : α}
      (answer : Except Host.Fault Text) (goes : Dialogue (next answer) xs a) :
    Dialogue (.read path next) (.read path answer :: xs) a
  | run {command : Command} {limit : Nat} {next : Except Host.Fault ProcessOutput → Plan α}
      {xs : List Exchange} {a : α} (answer : Except Host.Fault ProcessOutput)
      (goes : Dialogue (next answer) xs a) :
    Dialogue (.run command limit next) (.run command limit answer :: xs) a
  | remove {path : Text} {next : Plan α} {xs : List Exchange} {a : α}
      (goes : Dialogue next xs a) :
    Dialogue (.remove path next) xs a

variable {α β : Type} {p : Plan α} {xs : List Exchange} {a : α}

/-- A dialogue of a plan that goes on is one of the plan and one of what it goes on with. -/
theorem Dialogue.of_bind {f : α → Plan β} {b : β} (dialogue : (p.bind f).Dialogue xs b) :
  ∃ ys zs a, xs = ys ++ zs ∧ p.Dialogue ys a ∧ (f a).Dialogue zs b
  := by
  induction p generalizing xs with
  | done a => exact ⟨[], xs, a, rfl, .done a, dialogue⟩
  | register path next ih =>
      cases dialogue with
      | register goes =>
          obtain ⟨ys, zs, a, rfl, first, second⟩ := ih goes
          exact ⟨ys, zs, a, rfl, .register first, second⟩
  | makeDirectory path next ih =>
      cases dialogue with
      | makeDirectory answer goes =>
          obtain ⟨ys, zs, a, rfl, first, second⟩ := ih answer goes
          exact ⟨_ :: ys, zs, a, rfl, .makeDirectory answer first, second⟩
  | write path content next ih =>
      cases dialogue with
      | write answer goes =>
          obtain ⟨ys, zs, a, rfl, first, second⟩ := ih answer goes
          exact ⟨_ :: ys, zs, a, rfl, .write answer first, second⟩
  | read path next ih =>
      cases dialogue with
      | read answer goes =>
          obtain ⟨ys, zs, a, rfl, first, second⟩ := ih answer goes
          exact ⟨_ :: ys, zs, a, rfl, .read answer first, second⟩
  | run command limit next ih =>
      cases dialogue with
      | run answer goes =>
          obtain ⟨ys, zs, a, rfl, first, second⟩ := ih answer goes
          exact ⟨_ :: ys, zs, a, rfl, .run answer first, second⟩
  | remove path next ih =>
      cases dialogue with
      | remove goes =>
          obtain ⟨ys, zs, a, rfl, first, second⟩ := ih goes
          exact ⟨ys, zs, a, rfl, .remove first, second⟩

theorem Dialogue.of_removeAll {paths : List Text} (dialogue : (removeAll paths p).Dialogue xs a) :
  p.Dialogue xs a
  := by
  induction paths with
  | nil => exact dialogue
  | cons path paths ih =>
      cases dialogue with
      | remove goes => exact ih goes

/-- A machine that carries out a plan has a dialogue with it. -/
theorem dialogue_perform (p : Plan α) (site : Host.Site) (m : Host.Machine) :
  ∃ xs, p.Dialogue xs (p.perform site m).1
  := by
  induction p generalizing m with
  | done a => exact ⟨[], .done a⟩
  | register path next ih =>
      obtain ⟨xs, goes⟩ := ih m
      exact ⟨xs, .register goes⟩
  | makeDirectory path next ih =>
      obtain ⟨xs, goes⟩ := ih _ _
      exact ⟨_, .makeDirectory _ goes⟩
  | write path content next ih =>
      obtain ⟨xs, goes⟩ := ih _ _
      exact ⟨_, .write _ goes⟩
  | read path next ih =>
      obtain ⟨xs, goes⟩ := ih _ m
      exact ⟨_, .read _ goes⟩
  | run command limit next ih =>
      obtain ⟨xs, goes⟩ := ih _ _
      exact ⟨_, .run _ goes⟩
  | remove path next ih =>
      obtain ⟨xs, goes⟩ := ih _
      exact ⟨xs, .remove goes⟩

/-- What a host answers. -/
structure Answers where
  makeDirectory : Text → Except Host.Fault Unit
  write : Text → Text → Except Host.Fault Unit
  read : Text → Except Host.Fault Text
  run : Command → Nat → Except Host.Fault ProcessOutput

/-- The answer is that of a host. -/
def Exchange.IsFrom (h : Answers) : Exchange → Prop
  | .makeDirectory path answer => answer = h.makeDirectory path
  | .write path content answer => answer = h.write path content
  | .read path answer => answer = h.read path
  | .run command limit answer => answer = h.run command limit

/-- Whatever a host answers, a plan has a dialogue with it and comes to a value. -/
theorem exists_dialogue (p : Plan α) (h : Answers) :
  ∃ xs a, p.Dialogue xs a ∧ ∀ x ∈ xs, x.IsFrom h
  := by
  induction p with
  | done a => exact ⟨[], a, .done a, nofun⟩
  | register path next ih =>
      obtain ⟨xs, a, goes, fits⟩ := ih
      exact ⟨xs, a, .register goes, fits⟩
  | makeDirectory path next ih =>
      obtain ⟨xs, a, goes, fits⟩ := ih (h.makeDirectory path)
      exact ⟨_, a, .makeDirectory _ goes, List.forall_mem_cons.mpr ⟨rfl, fits⟩⟩
  | write path content next ih =>
      obtain ⟨xs, a, goes, fits⟩ := ih (h.write path content)
      exact ⟨_, a, .write _ goes, List.forall_mem_cons.mpr ⟨rfl, fits⟩⟩
  | read path next ih =>
      obtain ⟨xs, a, goes, fits⟩ := ih (h.read path)
      exact ⟨_, a, .read _ goes, List.forall_mem_cons.mpr ⟨rfl, fits⟩⟩
  | run command limit next ih =>
      obtain ⟨xs, a, goes, fits⟩ := ih (h.run command limit)
      exact ⟨_, a, .run _ goes, List.forall_mem_cons.mpr ⟨rfl, fits⟩⟩
  | remove path next ih =>
      obtain ⟨xs, a, goes, fits⟩ := ih
      exact ⟨xs, a, .remove goes, fits⟩

/-! ### Answers of a kind -/

/-- The answers to making directories and to writing files. -/
def changes : List Exchange → List (Except Host.Fault Unit)
  | [] => []
  | .makeDirectory _ answer :: xs | .write _ _ answer :: xs => answer :: changes xs
  | .read _ _ :: xs | .run _ _ _ :: xs => changes xs

/-- The answers to running a command. -/
def endings (command : Command) : List Exchange → List (Except Host.Fault ProcessOutput)
  | [] => []
  | .run c _ answer :: xs =>
    if c = command then answer :: endings command xs else endings command xs
  | .makeDirectory _ _ :: xs | .write _ _ _ :: xs | .read _ _ :: xs => endings command xs

/-- The answers to reading a file. -/
def readings (path : Text) : List Exchange → List (Except Host.Fault Text)
  | [] => []
  | .read p answer :: xs => if p = path then answer :: readings path xs else readings path xs
  | .makeDirectory _ _ :: xs | .write _ _ _ :: xs | .run _ _ _ :: xs => readings path xs

end Plan

namespace Work

open Plan (Exchange)

variable {α β : Type} {s t : Staging} {xs : List Exchange} {r : Except EngineError β}

/-- A dialogue in which a work comes to something, from one staging to another. -/
def Dialogue (w : Work α) (s : Staging) (xs : List Exchange) (r : Except EngineError α)
    (t : Staging) : Prop :=
  (w s).Dialogue xs (r, t)

theorem dialogue_pure {a : β} (dialogue : (pure a : Work β).Dialogue s xs r t) :
  xs = [] ∧ r = .ok a
  := by
  cases dialogue
  exact ⟨rfl, rfl⟩

/-- What was registered shows in no dialogue. -/
theorem dialogue_reserve {suffix : String} {f : Text → Work β}
    (dialogue : (reserve suffix >>= f).Dialogue s xs r t) :
  (f (s.path suffix.toList)).Dialogue (s.reserve suffix.toList) xs r t
  := by
  cases dialogue with
  | register goes => exact goes

/-- A command was run, and the work went on with what it did, or it could not be run. -/
theorem dialogue_execute {command : Command} {limit : Nat} {f : ProcessOutput → Work β}
    (dialogue : (execute command limit >>= f).Dialogue s xs r t) :
  (∃ fault, xs = [.run command limit (.error fault)] ∧ r = .error (.io fault))
    ∨ ∃ output ys, xs = .run command limit (.ok output) :: ys ∧ (f output).Dialogue s ys r t
  := by
  cases dialogue with
  | run answer goes =>
      cases answer with
      | error fault =>
          cases goes
          exact .inl ⟨fault, rfl, rfl⟩
      | ok output => exact .inr ⟨output, _, rfl, goes⟩

/-- A file was written, and the work went on, or the file or its directory could not be made. -/
theorem dialogue_write {suffix : String} {content : Text} {f : Text → Work β}
    (dialogue : (write suffix content >>= f).Dialogue s xs r t) :
  (∃ fault, xs = [.makeDirectory s.directory (.error fault)] ∧ r = .error (.io fault))
    ∨ (∃ fault, xs = [.makeDirectory s.directory (.ok ()),
        .write (s.path suffix.toList) content (.error fault)] ∧ r = .error (.io fault))
    ∨ ∃ ys, xs = .makeDirectory s.directory (.ok ())
          :: .write (s.path suffix.toList) content (.ok ()) :: ys
        ∧ (f (s.path suffix.toList)).Dialogue (s.reserve suffix.toList) ys r t
  := by
  cases dialogue with
  | makeDirectory answer goes =>
      cases answer with
      | error fault =>
          cases goes
          exact .inl ⟨fault, rfl, rfl⟩
      | ok =>
          cases goes with
          | register goes =>
              cases goes with
              | write answer goes =>
                  cases answer with
                  | error fault =>
                      cases goes
                      exact .inr (.inl ⟨fault, rfl, rfl⟩)
                  | ok => exact .inr (.inr ⟨_, rfl, goes⟩)

/-- A file was read, and the work went on with its text or without. -/
theorem dialogue_read? {path : Text} {f : Option Text → Work β}
    (dialogue : (read? path >>= f).Dialogue s xs r t) :
  ∃ answer ys, xs = .read path answer :: ys ∧ (f answer.toOption).Dialogue s ys r t
  := by
  cases dialogue with
  | read answer goes => exact ⟨answer, _, rfl, goes⟩

/-- What is done from a fresh staging comes to what the work comes to, or to its error. -/
theorem dialogue_run {w : Work CellResult} {cellId : Text} {result : CellResult}
    (dialogue : (w.run s cellId).Dialogue xs result) :
  ∃ r t, w.Dialogue s xs r t
    ∧ (r = .ok result ∨ ∃ e, r = .error e ∧ result = .failedEarly cellId e.failure)
  := by
  obtain ⟨ys, zs, ⟨r, t⟩, rfl, first, second⟩ := dialogue.of_bind
  have ending := second.of_removeAll
  cases r with
  | ok r =>
      cases ending
      rw [List.append_nil]
      exact ⟨_, t, first, .inl rfl⟩
  | error e =>
      cases ending
      rw [List.append_nil]
      exact ⟨_, t, first, .inr ⟨e, rfl, rfl⟩⟩

end Work

end NotebookEngine
