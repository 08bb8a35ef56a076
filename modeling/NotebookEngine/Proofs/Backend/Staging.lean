import Mathlib.Logic.Relation
import NotebookEngine.Backend.Performance
import NotebookEngine.Backend.Scripted
import NotebookEngine.Proofs.Host.Files

/-!
# Staging

While a plan goes on, paths are registered and files change (`Plan.Stage`, `Stage.Step`), whatever
the host answers. A plan is staged if it makes its directory before it writes there, has registered
the paths to which it writes and all those that it gives to programs, and removes the registered
files at its end (`Plan.Staged`). So are the plans of all backends (`Backend.plan_staged`). Of what
a staged plan has registered nothing is left when it is done, and no other file is changed on the way
(`Plan.Staged.keeps`).
-/

namespace NotebookEngine

open Host (Octets Files Site Machine)

namespace Plan

variable {α β : Type}

/-! ### Stages of a plan -/

/-- How far a plan has come: the paths registered so far, what is still planned, and the files. -/
structure Stage (α : Type) where
  registered : List Text
  plan : Plan α
  files : Files

/-- A plan goes on by its next request, and the host answers what it likes. A directory that is made
and a file that is written change what they are meant to change, in part or as a whole. A program
that is run changes files at the paths that it was given. A regular file that is to be removed is
removed. -/
inductive Stage.Step (here : Host.Path) (given : List Text) : Stage α → Stage α → Prop
  | register {registered : List Text} {path : Text} {next : Plan α} {files : Files} :
    Step here given ⟨registered, .register path next, files⟩ ⟨registered ++ [path], next, files⟩
  | makeDirectory {registered : List Text} {path : Text} {next : Except Host.Fault Unit → Plan α}
      {files files' : Files} (answer : Except Host.Fault Unit)
      (spares : Files.Spares here [] files files') :
    Step here given ⟨registered, .makeDirectory path next, files⟩ ⟨registered, next answer, files'⟩
  | write {registered : List Text} {path content : Text} {next : Except Host.Fault Unit → Plan α}
      {files files' : Files} (answer : Except Host.Fault Unit)
      (spares : Files.Spares here [path] files files') :
    Step here given ⟨registered, .write path content next, files⟩ ⟨registered, next answer, files'⟩
  | read {registered : List Text} {path : Text} {next : Except Host.Fault Text → Plan α}
      {files : Files} (answer : Except Host.Fault Text) :
    Step here given ⟨registered, .read path next, files⟩ ⟨registered, next answer, files⟩
  | run {registered : List Text} {command : Command} {limit : Nat}
      {next : Except Host.Fault ProcessOutput → Plan α} {files files' : Files}
      (answer : Except Host.Fault ProcessOutput) (spares : Files.Spares here given files files') :
    Step here given ⟨registered, .run command limit next, files⟩ ⟨registered, next answer, files'⟩
  | remove {registered : List Text} {path : Text} {next : Plan α} {files : Files} :
    Step here given ⟨registered, .remove path next, files⟩
      ⟨registered, next, files.settled (files.remove here (Octets.ofText path))⟩

/-- A plan goes on, step by step. -/
abbrev Stage.Steps (here : Host.Path) (given : List Text) : Stage α → Stage α → Prop :=
  Relation.ReflTransGen (Step here given)

/-- Whether the directory of a plan has been made: it has not been asked for, or it was made, or it
could not be made. -/
inductive Ground where
  | unasked
  | made
  | refused
deriving DecidableEq

theorem Ground.eq_made {ground : Ground} (asked : ground ≠ .unasked) (unrefused : ground ≠ .refused) :
  ground = .made
  := by
  cases ground with
  | unasked => contradiction
  | made => rfl
  | refused => contradiction

/-- A plan whose files lie in a directory, that has registered some paths and already removed the
files of the first of them. It writes and reads only at paths that it has registered, in a directory
that it has made; the paths that it gives to programs are registered by then; and at its end it
removes all that it has registered. -/
inductive Staged (directory : Text) (given : List Text) :
    Ground → (gone registered : List Text) → Plan α → Prop
  | ending {ground : Ground} {gone rest registered : List Text} {p : Plan α} (a : α)
      (all : registered = gone ++ rest) (removes : p = removeAll rest (.done a))
      (asked : ground = .unasked → registered = []) :
    Staged directory given ground gone registered p
  | register {ground : Ground} {registered : List Text} {path : Text} {next : Plan α}
      (own : path ∈ given) (goes : Staged directory given ground [] (registered ++ [path]) next) :
    Staged directory given ground [] registered (.register path next)
  | makeDirectory {ground : Ground} {registered : List Text}
      {next : Except Host.Fault Unit → Plan α}
      (made : Staged directory given .made [] registered (next (.ok ())))
      (refused : ∀ f, Staged directory given .refused [] registered (next (.error f))) :
    Staged directory given ground [] registered (.makeDirectory directory next)
  | write {registered : List Text} {path content : Text} {next : Except Host.Fault Unit → Plan α}
      (held : path ∈ registered) (goes : ∀ r, Staged directory given .made [] registered (next r)) :
    Staged directory given .made [] registered (.write path content next)
  | read {registered : List Text} {path : Text} {next : Except Host.Fault Text → Plan α}
      (held : path ∈ registered) (goes : ∀ r, Staged directory given .made [] registered (next r)) :
    Staged directory given .made [] registered (.read path next)
  | run {registered : List Text} {command : Command} {limit : Nat}
      {next : Except Host.Fault ProcessOutput → Plan α} (held : given ⊆ registered)
      (goes : ∀ r, Staged directory given .made [] registered (next r)) :
    Staged directory given .made [] registered (.run command limit next)

namespace Staged

variable {directory : Text} {given gone registered : List Text} {ground : Ground} {path : Text}

/-- What is neither done nor to be removed is not at its end. -/
theorem removeAll_cases {rest : List Text} {a : α} {p : Plan α} (same : p = removeAll rest (.done a)) :
  rest = [] ∧ p = .done a ∨ ∃ path rest', rest = path :: rest'
    ∧ p = .remove path (removeAll rest' (.done a))
  := by
  cases rest with
  | nil => exact .inl ⟨rfl, same⟩
  | cons path rest => exact .inr ⟨path, rest, rfl, same⟩

theorem of_done {a : α} (staged : Staged directory given ground gone registered (.done a)) :
  gone = registered
  := by
  cases staged with
  | ending b all removes =>
      obtain ⟨rfl, -⟩ | ⟨_, _, -, ⟨⟩⟩ := removeAll_cases removes
      rw [all, List.append_nil]

/-- A plan that is done with some paths registered has asked for its directory. -/
theorem asked {a : α} (staged : Staged directory given ground gone registered (.done a))
    (some : registered ≠ []) :
  ground ≠ .unasked
  := by
  cases staged with
  | ending b all removes asked =>
      intro unasked
      exact some (asked unasked)

theorem of_register {next : Plan α}
    (staged : Staged directory given ground gone registered (.register path next)) :
  gone = [] ∧ path ∈ given ∧ Staged directory given ground [] (registered ++ [path]) next
  := by
  cases staged with
  | ending a all removes => obtain ⟨-, ⟨⟩⟩ | ⟨_, _, -, ⟨⟩⟩ := removeAll_cases removes
  | register own goes => exact ⟨rfl, own, goes⟩

theorem of_makeDirectory {next : Except Host.Fault Unit → Plan α}
    (staged : Staged directory given ground gone registered (.makeDirectory path next)) :
  gone = [] ∧ path = directory ∧ Staged directory given .made [] registered (next (.ok ()))
    ∧ ∀ f, Staged directory given .refused [] registered (next (.error f))
  := by
  cases staged with
  | ending a all removes => obtain ⟨-, ⟨⟩⟩ | ⟨_, _, -, ⟨⟩⟩ := removeAll_cases removes
  | makeDirectory made refused => exact ⟨rfl, rfl, made, refused⟩

theorem of_write {content : Text} {next : Except Host.Fault Unit → Plan α}
    (staged : Staged directory given ground gone registered (.write path content next)) :
  gone = [] ∧ ground = .made ∧ path ∈ registered
    ∧ ∀ r, Staged directory given .made [] registered (next r)
  := by
  cases staged with
  | ending a all removes => obtain ⟨-, ⟨⟩⟩ | ⟨_, _, -, ⟨⟩⟩ := removeAll_cases removes
  | write held goes => exact ⟨rfl, rfl, held, goes⟩

theorem of_read {next : Except Host.Fault Text → Plan α}
    (staged : Staged directory given ground gone registered (.read path next)) :
  gone = [] ∧ ground = .made ∧ path ∈ registered
    ∧ ∀ r, Staged directory given .made [] registered (next r)
  := by
  cases staged with
  | ending a all removes => obtain ⟨-, ⟨⟩⟩ | ⟨_, _, -, ⟨⟩⟩ := removeAll_cases removes
  | read held goes => exact ⟨rfl, rfl, held, goes⟩

theorem of_run {command : Command} {limit : Nat} {next : Except Host.Fault ProcessOutput → Plan α}
    (staged : Staged directory given ground gone registered (.run command limit next)) :
  gone = [] ∧ ground = .made ∧ given ⊆ registered
    ∧ ∀ r, Staged directory given .made [] registered (next r)
  := by
  cases staged with
  | ending a all removes => obtain ⟨-, ⟨⟩⟩ | ⟨_, _, -, ⟨⟩⟩ := removeAll_cases removes
  | run held goes => exact ⟨rfl, rfl, held, goes⟩

theorem of_remove {next : Plan α}
    (staged : Staged directory given ground gone registered (.remove path next)) :
  ground ≠ .unasked ∧ path ∈ registered
    ∧ Staged directory given ground (gone ++ [path]) registered next
  := by
  cases staged with
  | @ending _ _ rest _ _ a all removes asked =>
      obtain ⟨-, ⟨⟩⟩ | ⟨path, rest, rfl, same⟩ := removeAll_cases removes
      obtain ⟨rfl, rfl⟩ := Plan.remove.inj same
      exact ⟨fun unasked => by simpa [all] using asked unasked, by simp [all],
        .ending a (by simp [all]) rfl asked⟩

end Staged

/-- What holds at a stage of a staged plan that began with some files: what it has registered are
paths that it gives away, no other file is changed, and the files that it has removed are gone. -/
structure Stage.Keeps (here : Host.Path) (directory : Text) (given : List Text) (files : Files)
    (s : Stage α) : Prop where
  own : s.registered ⊆ given
  spares : Files.Spares here s.registered files s.files
  course : ∃ ground gone, Staged directory given ground gone s.registered s.plan
    ∧ ∀ path ∈ gone, s.files.regularAt? here path = none

namespace Stage.Keeps

variable {here : Host.Path} {directory : Text} {given : List Text} {files : Files} {s s' : Stage α}

/-- A step changes only files whose paths are registered by then. -/
theorem spares_step (keeps : s.Keeps here directory given files) (step : Step here given s s') :
  Files.Spares here s.registered s.files s'.files
  := by
  obtain ⟨ground, gone, staged, -⟩ := keeps.course
  cases step with
  | register | read => exact .refl _
  | makeDirectory answer spares => exact spares.mono (List.nil_subset _)
  | write answer spares =>
      obtain ⟨-, -, held, -⟩ := staged.of_write
      exact spares.mono (by simpa using held)
  | run answer spares =>
      obtain ⟨-, -, held, -⟩ := staged.of_run
      exact spares.mono held
  | remove =>
      obtain ⟨-, held, -⟩ := staged.of_remove
      exact (Files.remove_spares _).mono (by simpa using held)

theorem step (keeps : s.Keeps here directory given files) (step : Step here given s s') :
  s'.Keeps here directory given files
  := by
  have changes := keeps.spares_step step
  obtain ⟨own, spares, ground, gone, staged, clean⟩ := keeps
  cases step with
  | register =>
      obtain ⟨rfl, fits, goes⟩ := staged.of_register
      refine ⟨?_, spares.mono (List.subset_append_left _ _), ground, [], goes, nofun⟩
      apply List.append_subset.mpr ⟨own, by simpa using fits⟩
  | makeDirectory answer _ =>
      obtain ⟨rfl, -, made, refused⟩ := staged.of_makeDirectory
      cases answer with
      | ok => exact ⟨own, spares.trans changes, .made, [], made, nofun⟩
      | error fault => exact ⟨own, spares.trans changes, .refused, [], refused fault, nofun⟩
  | write answer _ =>
      obtain ⟨rfl, -, -, goes⟩ := staged.of_write
      exact ⟨own, spares.trans changes, .made, [], goes answer, nofun⟩
  | read answer =>
      obtain ⟨rfl, -, -, goes⟩ := staged.of_read
      exact ⟨own, spares, .made, [], goes answer, nofun⟩
  | run answer _ =>
      obtain ⟨rfl, -, -, goes⟩ := staged.of_run
      exact ⟨own, spares.trans changes, .made, [], goes answer, nofun⟩
  | @remove _ path =>
      obtain ⟨-, -, goes⟩ := staged.of_remove
      refine ⟨own, spares.trans changes, ground, gone ++ [path], goes, ?_⟩
      intro path' removed
      rcases List.mem_append.mp removed with before | last
      · apply Files.regularAt?_remove_of_none (clean path' before)
      · obtain rfl := List.mem_singleton.mp last
        apply Files.regularAt?_remove

end Stage.Keeps

/-- What a staged plan keeps on its way. -/
theorem Staged.keeps {here : Host.Path} {directory : Text} {given : List Text} {p : Plan α}
    {files : Files} {s : Stage α} (staged : Staged directory given .unasked [] [] p)
    (steps : Stage.Steps here given ⟨[], p, files⟩ s) :
  s.Keeps here directory given files
  := by
  induction steps with
  | refl => exact ⟨List.nil_subset _, .refl _, .unasked, [], staged, nofun⟩
  | tail _ step ih => exact ih.step step

/-- When a plan is done, the files that it has registered are gone. -/
theorem Stage.Keeps.clean {here : Host.Path} {directory : Text} {given : List Text} {files : Files}
    {s : Stage α} {a : α} (keeps : s.Keeps here directory given files) (done : s.plan = .done a) :
  ∀ path ∈ s.registered, s.files.regularAt? here path = none
  := by
  obtain ⟨ground, gone, staged, clean⟩ := keeps.course
  rw [done] at staged
  exact staged.of_done ▸ clean

/-! ### Plans on a machine -/

/-- On a machine, the programs that a plan runs change regular files only at the paths given to
them. -/
def Confined (site : Site) (given : List Text) : Plan α → Machine → Prop
  | .done _, _ => True
  | .register _ next, m => next.Confined site given m
  | .makeDirectory path next, m =>
    let changes := changed m (m.files.makeAll site.directory (Octets.ofText path))
    (next changes.1).Confined site given changes.2
  | .write path content next, m =>
    let changes := changed m (m.files.write site.directory (Octets.ofText path)
      (Octets.ofText content) fileMode)
    (next changes.1).Confined site given changes.2
  | .read path next, m => (next (textAt m site path)).Confined site given m
  | .run command limit next, m =>
    let ran := m.runBounded site command.program command.arguments limit
    Files.Spares site.directory given m.files ran.2.files ∧ (next ran.1).Confined site given ran.2
  | .remove path next, m =>
    next.Confined site given
      (changed m (m.files.remove site.directory (Octets.ofText path))).2

instance decidableConfined (site : Site) (given : List Text) :
    (p : Plan α) → (m : Machine) → Decidable (p.Confined site given m)
  | .done _, _ => inferInstanceAs (Decidable True)
  | .register _ next, m => decidableConfined site given next m
  | .makeDirectory path next, m =>
    let changes := changed m (m.files.makeAll site.directory (Octets.ofText path))
    decidableConfined site given (next changes.1) changes.2
  | .write path content next, m =>
    let changes := changed m (m.files.write site.directory (Octets.ofText path)
      (Octets.ofText content) fileMode)
    decidableConfined site given (next changes.1) changes.2
  | .read path next, m => decidableConfined site given (next (textAt m site path)) m
  | .run command limit next, m =>
    let ran := m.runBounded site command.program command.arguments limit
    have := decidableConfined site given (next ran.1) ran.2
    inferInstanceAs (Decidable (_ ∧ _))
  | .remove path next, m =>
    decidableConfined site given next
      (changed m (m.files.remove site.directory (Octets.ofText path))).2

theorem changed_files (m : Machine) (r : Except Host.Fault Files) :
  (changed m r).2.files = m.files.settled r
  := by
  cases r <;> rfl

/-- To carry out a plan on a machine is to go on with it until it is done. -/
theorem perform_steps {site : Site} {given : List Text} {p : Plan α} {m : Machine}
    (sound : m.files.Sound) (confined : p.Confined site given m) (registered : List Text) :
  ∃ registered', Stage.Steps site.directory given ⟨registered, p, m.files⟩
    ⟨registered', .done (p.perform site m).1, (p.perform site m).2.files⟩
  := by
  induction p generalizing m registered with
  | done a => exact ⟨registered, .refl⟩
  | register path next ih =>
      obtain ⟨registered', steps⟩ := ih sound confined (registered ++ [path])
      exact ⟨registered', .head .register steps⟩
  | makeDirectory path next ih =>
      obtain ⟨sound', spares⟩ := sound.makeAll_spares site.directory (Octets.ofText path)
      rw [← changed_files] at sound' spares
      obtain ⟨registered', steps⟩ := ih _ sound' confined registered
      exact ⟨registered', .head (.makeDirectory _ spares) steps⟩
  | write path content next ih =>
      obtain ⟨sound', spares⟩ :=
        sound.write_spares site.directory path (Octets.ofText content) fileMode
      rw [← changed_files] at sound' spares
      obtain ⟨registered', steps⟩ := ih _ sound' confined registered
      exact ⟨registered', .head (.write _ spares) steps⟩
  | read path next ih =>
      obtain ⟨registered', steps⟩ := ih _ sound confined registered
      exact ⟨registered', .head (.read _) steps⟩
  | run command limit next ih =>
      have sound' := Machine.runBounded_sound sound site command.program command.arguments limit
      obtain ⟨registered', steps⟩ := ih _ sound' confined.2 registered
      exact ⟨registered', .head (.run _ confined.1) steps⟩
  | remove path next ih =>
      have sound' : (changed m (m.files.remove site.directory (Octets.ofText path))).2.files.Sound := by
        rw [changed_files]
        apply sound.settled_remove
      obtain ⟨registered', steps⟩ := ih sound' confined registered
      have first : Stage.Step site.directory given ⟨registered, .remove path next, m.files⟩
          ⟨registered, next, (changed m (m.files.remove site.directory (Octets.ofText path))).2.files⟩ := by
        rw [changed_files]
        exact .remove
      exact ⟨registered', .head first steps⟩

end Plan

/-! ### Works -/

namespace Staging

variable (s : Staging) (suffix suffix' : Text)

@[simp]
theorem path_reserve :
  (s.reserve suffix).path suffix' = s.path suffix'
  := rfl

@[simp]
theorem paths_reserve :
  (s.reserve suffix).paths = s.paths ++ [s.path suffix]
  := rfl

end Staging

namespace Work

open Plan (Staged Ground)

variable {given : List Text} {ground : Ground} {s : Staging} {α : Type}

/-- From a staging, the work and the removal of its files are staged. -/
def Stages (given : List Text) (ground : Ground) (s : Staging) (w : Work CellResult) : Prop :=
  ∀ cellId, Staged s.directory given ground [] s.paths (w.run s cellId)

/-- A work that has come to a result, or has failed, removes its files. -/
theorem staged_end (s : Staging) (result : CellResult) (asked : ground ≠ .unasked) :
  Staged s.directory given ground [] s.paths (Plan.removeAll s.paths (.done result))
  := by
  exact .ending result rfl rfl fun unasked => absurd unasked asked

theorem stages_pure (result : CellResult) :
  Stages given .made s (pure result)
  := by
  intro cellId
  exact staged_end s result (by decide)

theorem Stages.reserve {f : Text → Work CellResult} {suffix : String}
    (own : s.path suffix.toList ∈ given)
    (goes : (f (s.path suffix.toList)).Stages given ground (s.reserve suffix.toList)) :
  (Work.reserve suffix >>= f).Stages given ground s
  := by
  intro cellId
  exact Staged.register own (goes cellId)

theorem Stages.write {f : Text → Work CellResult} {suffix : String} {content : Text}
    (own : s.path suffix.toList ∈ given)
    (goes : (f (s.path suffix.toList)).Stages given .made (s.reserve suffix.toList)) :
  (Work.write suffix content >>= f).Stages given ground s
  := by
  intro cellId
  apply Staged.makeDirectory
  · apply Staged.register own
    apply Staged.write
    · simp
    · intro r
      cases r with
      | ok => exact goes cellId
      | error fault =>
          exact staged_end (s.reserve suffix.toList)
            (CellResult.failedEarly cellId (EngineError.io fault).failure) (by decide)
  · intro fault
    exact staged_end s (CellResult.failedEarly cellId (EngineError.io fault).failure) (by decide)

theorem Stages.execute {f : ProcessOutput → Work CellResult} {command : Command} {limit : Nat}
    (held : given ⊆ s.paths) (goes : ∀ output, (f output).Stages given .made s) :
  (Work.execute command limit >>= f).Stages given .made s
  := by
  intro cellId
  apply Staged.run held
  intro r
  cases r with
  | ok output => exact goes output cellId
  | error fault =>
      exact staged_end s (CellResult.failedEarly cellId (EngineError.io fault).failure) (by decide)

theorem Stages.read {f : Option Text → Work CellResult} {path : Text} (held : path ∈ s.paths)
    (goes : ∀ content, (f content).Stages given .made s) :
  (Work.read? path >>= f).Stages given .made s
  := by
  intro cellId
  apply Staged.read held
  intro r
  exact goes r.toOption cellId

theorem Stages.report {f : Option Report → Work CellResult} {path : Text} (held : path ∈ s.paths)
    (goes : ∀ report, (f report).Stages given .made s) :
  (Scripted.report? path >>= f).Stages given .made s
  := by
  intro cellId
  apply Staged.read held
  intro r
  exact goes (r.toOption.bind Report.ofText?) cellId

end Work

/-! ### Backends -/

/-- A backend that gives every fragment files of its own. -/
inductive Backend where
  | compiled
  | plain
  | typed
deriving DecidableEq, Repr

namespace Backend

/-- The backend of a language. -/
def ofLanguage? : Language → Option Backend
  | .python => none
  | .rust => some .compiled
  | .javascript => some .plain
  | .typescript => some .typed

/-- The tool that a backend needs. -/
def toolchain : Backend → Toolchain
  | .compiled => .rustc
  | .plain => .javascript
  | .typed => .typescript

/-- The kind in the names of files. -/
def kind : Backend → Text
  | .compiled => "rust".toList
  | .plain => "js".toList
  | .typed => "ts".toList

/-- How the names of the files end. -/
def suffixes : Backend → List Text
  | .compiled => ["_result.txt".toList, [], ".rs".toList]
  | .plain => ["_result.json".toList, "_user.js".toList, "_executor.js".toList]
  | .typed => ["_result.json".toList, ".ts".toList]

/-- The plan of a fragment. -/
def plan (b : Backend) (config : Config) (tool : Option Text) (id code cellId : Text) :
    Plan CellResult :=
  match b with
  | .compiled => Compiled.plan config tool id code cellId
  | .plain => Scripted.plainPlan config tool id code cellId
  | .typed => Scripted.typedPlan config tool id code cellId

/-- The staging from which a fragment begins. -/
def staging (b : Backend) (directory id : Text) : Staging :=
  ⟨directory, b.kind, id, []⟩

/-- The paths of the files of a fragment. -/
def paths (b : Backend) (directory id : Text) : List Text :=
  b.suffixes.map (b.staging directory id).path

variable (b : Backend) (config : Config) (id code cellId : Text)

theorem compiled_stages (compiler : Text) :
  (Compiled.work config compiler code cellId).Stages (compiled.paths config.tempDir id) .unasked
    (compiled.staging config.tempDir id)
  := by
  unfold Compiled.work
  apply Work.Stages.reserve (by simp [paths, suffixes])
  apply Work.Stages.reserve (by simp [paths, suffixes])
  apply Work.Stages.write (by simp [paths, suffixes])
  apply Work.Stages.execute (by simp [paths, suffixes, staging])
  intro compiled
  split
  case isTrue => apply Work.stages_pure
  case isFalse =>
    apply Work.Stages.execute (by simp [paths, suffixes, staging])
    intro output
    split
    case isTrue => apply Work.stages_pure
    case isFalse =>
      split
      case isTrue => apply Work.stages_pure
      case isFalse =>
        apply Work.Stages.read (by simp)
        intro written
        apply Work.stages_pure

theorem plain_stages (runtime : Text) :
  (Scripted.plainWork config runtime code cellId).Stages (plain.paths config.tempDir id) .unasked
    (plain.staging config.tempDir id)
  := by
  unfold Scripted.plainWork
  apply Work.Stages.reserve (by simp [paths, suffixes])
  apply Work.Stages.write (by simp [paths, suffixes])
  apply Work.Stages.write (by simp [paths, suffixes])
  apply Work.Stages.execute (by simp [paths, suffixes, staging])
  intro output
  split
  case isTrue => apply Work.stages_pure
  case isFalse =>
    apply Work.Stages.report (by simp)
    intro report
    apply Work.stages_pure

theorem typed_stages (runtime : Text) :
  (Scripted.typedWork config runtime code cellId).Stages (typed.paths config.tempDir id) .unasked
    (typed.staging config.tempDir id)
  := by
  unfold Scripted.typedWork
  apply Work.Stages.reserve (by simp [paths, suffixes])
  apply Work.Stages.write (by simp [paths, suffixes])
  apply Work.Stages.execute (by simp [paths, suffixes, staging])
  intro output
  split
  case h_1 => apply Work.stages_pure
  case h_2 =>
    apply Work.Stages.report (by simp)
    intro report
    apply Work.stages_pure

/-- Without its tool, a backend does nothing. -/
theorem plan_none :
  b.plan config none id code cellId
    = .done (.failedEarly cellId (EngineError.toolchainNotFound b.toolchain).failure)
  := by
  cases b <;> rfl

/-- The plans of all backends are staged, with a tool or without. -/
theorem plan_staged (tool : Option Text) :
  Plan.Staged config.tempDir (b.paths config.tempDir id) .unasked [] []
    (b.plan config tool id code cellId)
  := by
  cases tool with
  | none =>
      rw [plan_none]
      exact .ending _ rfl rfl fun _ => rfl
  | some tool =>
      cases b with
      | compiled => exact compiled_stages config id code cellId tool cellId
      | plain => exact plain_stages config id code cellId tool cellId
      | typed => exact typed_stages config id code cellId tool cellId

end Backend

end NotebookEngine
