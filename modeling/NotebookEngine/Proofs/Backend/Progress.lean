import NotebookEngine.Proofs.Backend.Staging
import NotebookEngine.Proofs.Host.Shared

/-!
# Progress of fragments

The plan of a fragment goes on step by step, and so do the programs that it has started
(`Progress.Step`). If each program touches only the files of its fragment, a step changes no other
files (`Progress.Proper.step`), and the fragment goes on in the same way among all files that are
alike where its own are (`Progress.Follows.step`).
-/

namespace NotebookEngine

open Host (Octets Files Site Machine)

/-! ### Programs -/

/-- What a program does with files until it ends. Each time it finds a regular file at a path, or
nothing, and leaves something else there. -/
inductive Job where
  | ended (r : Except Host.Fault ProcessOutput)
  | touch (path : Text) (change : Option (Nat × Octets) → Option (Nat × Octets))
      (next : Option (Nat × Octets) → Job)

namespace Job

/-- A program touches only files at some paths. -/
def Within (paths : List Text) : Job → Prop
  | .ended _ => True
  | .touch path _ next => path ∈ paths ∧ ∀ found, (next found).Within paths

/-- How a program ends that is alone with its files, and the files after it. -/
def finish (here : Host.Path) : Job → Files → Except Host.Fault ProcessOutput × Files
  | .ended r, f => (r, f)
  | .touch path change next, f =>
    (next (f.regularAt? here path)).finish here
      (f.settled (f.touch here (Octets.ofText path) change))

end Job

/-- The value to which a plan comes that is alone with its files, and the files after it; `start`
tells what the programs do. -/
def Plan.finish {α : Type} (here : Host.Path) (start : Command → Nat → Job) :
    Plan α → Files → α × Files
  | .done a, f => (a, f)
  | .register _ next, f => next.finish here start f
  | .makeDirectory path next, f =>
    let r := f.makeAll here (Octets.ofText path)
    (next (r.map fun _ => ())).finish here start (f.settled r)
  | .write path content next, f =>
    let r := f.write here (Octets.ofText path) (Octets.ofText content) fileMode
    (next (r.map fun _ => ())).finish here start (f.settled r)
  | .read path next, f => (next (textIn f here path)).finish here start f
  | .run command limit next, f =>
    let ended := (start command limit).finish here f
    (next ended.1).finish here start ended.2
  | .remove path next, f =>
    next.finish here start (f.settled (f.remove here (Octets.ofText path)))

/-- On a machine, the programs that a plan runs do what `start` tells. -/
def Plan.RunsAs {α : Type} (site : Site) (start : Command → Nat → Job) : Plan α → Machine → Prop
  | .done _, _ => True
  | .register _ next, m => next.RunsAs site start m
  | .makeDirectory path next, m =>
    let changes := changed m (m.files.makeAll site.directory (Octets.ofText path))
    (next changes.1).RunsAs site start changes.2
  | .write path content next, m =>
    let changes := changed m (m.files.write site.directory (Octets.ofText path)
      (Octets.ofText content) fileMode)
    (next changes.1).RunsAs site start changes.2
  | .read path next, m => (next (textAt m site path)).RunsAs site start m
  | .run command limit next, m =>
    let ran := m.runBounded site command.program command.arguments limit
    (ran.1, ran.2.files) = (start command limit).finish site.directory m.files
      ∧ (next ran.1).RunsAs site start ran.2
  | .remove path next, m =>
    next.RunsAs site start (changed m (m.files.remove site.directory (Octets.ofText path))).2

theorem Plan.changed_answer (m : Machine) (r : Except Host.Fault Files) :
  (changed m r).1 = r.map fun _ => ()
  := by
  cases r <;> rfl

/-- On a machine, such a plan comes to the value to which it comes alone. -/
theorem Plan.perform_eq_finish {α : Type} {site : Site} {start : Command → Nat → Job} {p : Plan α}
    {m : Machine} (runs : p.RunsAs site start m) :
  ((p.perform site m).1, (p.perform site m).2.files) = p.finish site.directory start m.files
  := by
  induction p generalizing m with
  | done a => rfl
  | register path next ih => apply ih runs
  | makeDirectory path next ih =>
      unfold finish
      dsimp only
      rw [← changed_files, ← changed_answer m]
      apply ih _ runs
  | write path content next ih =>
      unfold finish
      dsimp only
      rw [← changed_files, ← changed_answer m]
      apply ih _ runs
  | read path next ih => apply ih _ runs
  | run command limit next ih =>
      obtain ⟨same, runs⟩ := runs
      unfold finish
      rw [← same]
      apply ih _ runs
  | remove path next ih =>
      unfold finish
      rw [← changed_files]
      apply ih runs

/-! ### Progress -/

/-- What goes on for a fragment: its plan, or a program that it has started. -/
inductive Progress.Doing (α : Type) where
  | plans (p : Plan α)
  | awaits (j : Job) (next : Except Host.Fault ProcessOutput → Plan α)

/-- How far a fragment has come: the paths registered so far, and what goes on. -/
structure Progress (α : Type) where
  registered : List Text
  doing : Progress.Doing α

namespace Progress

variable {α : Type}

/-- The fragment has come to its value. -/
def Returned (c : Progress α) (a : α) : Prop :=
  c.doing = .plans (.done a)

/-- The value to which a fragment comes when nothing else is done, and the files after it. -/
def finish (here : Host.Path) (start : Command → Nat → Job) (c : Progress α) (f : Files) : α × Files :=
  match c.doing with
  | .plans p => p.finish here start f
  | .awaits j next =>
    let ended := j.finish here f
    (next ended.1).finish here start ended.2

/-- The next step of a fragment, or of a program that it has started. -/
inductive Step (here : Host.Path) (start : Command → Nat → Job) :
    Progress α × Files → Progress α × Files → Prop
  | register {registered : List Text} {path : Text} {next : Plan α} {f : Files} :
    Step here start (⟨registered, .plans (.register path next)⟩, f)
      (⟨registered ++ [path], .plans next⟩, f)
  | makeDirectory {registered : List Text} {path : Text} {next : Except Host.Fault Unit → Plan α}
      {f : Files} :
    Step here start (⟨registered, .plans (.makeDirectory path next)⟩, f)
      (⟨registered, .plans (next ((f.makeAll here (Octets.ofText path)).map fun _ => ()))⟩,
        f.settled (f.makeAll here (Octets.ofText path)))
  | write {registered : List Text} {path content : Text} {next : Except Host.Fault Unit → Plan α}
      {f : Files} :
    Step here start (⟨registered, .plans (.write path content next)⟩, f)
      (⟨registered, .plans (next ((f.write here (Octets.ofText path) (Octets.ofText content)
          Plan.fileMode).map fun _ => ()))⟩,
        f.settled (f.write here (Octets.ofText path) (Octets.ofText content) Plan.fileMode))
  | read {registered : List Text} {path : Text} {next : Except Host.Fault Text → Plan α}
      {f : Files} :
    Step here start (⟨registered, .plans (.read path next)⟩, f)
      (⟨registered, .plans (next (Plan.textIn f here path))⟩, f)
  /-- A program is started. -/
  | run {registered : List Text} {command : Command} {limit : Nat}
      {next : Except Host.Fault ProcessOutput → Plan α} {f : Files} :
    Step here start (⟨registered, .plans (.run command limit next)⟩, f)
      (⟨registered, .awaits (start command limit) next⟩, f)
  | touch {registered : List Text} {path : Text}
      {change : Option (Nat × Octets) → Option (Nat × Octets)} {k : Option (Nat × Octets) → Job}
      {next : Except Host.Fault ProcessOutput → Plan α} {f : Files} :
    Step here start (⟨registered, .awaits (.touch path change k) next⟩, f)
      (⟨registered, .awaits (k (f.regularAt? here path)) next⟩,
        f.settled (f.touch here (Octets.ofText path) change))
  /-- A program has ended. -/
  | ended {registered : List Text} {r : Except Host.Fault ProcessOutput}
      {next : Except Host.Fault ProcessOutput → Plan α} {f : Files} :
    Step here start (⟨registered, .awaits (.ended r) next⟩, f) (⟨registered, .plans (next r)⟩, f)
  | remove {registered : List Text} {path : Text} {next : Plan α} {f : Files} :
    Step here start (⟨registered, .plans (.remove path next)⟩, f)
      (⟨registered, .plans next⟩, f.settled (f.remove here (Octets.ofText path)))

variable {here : Host.Path} {directory : Text} {given : List Text} {start : Command → Nat → Job}
  {c c' : Progress α} {f f' g : Files}

/-- A step leads to the same end. -/
theorem Step.finish (step : Step here start (c, f) (c', f')) :
  c'.finish here start f' = c.finish here start f
  := by
  cases step <;> rfl

/-- A program goes on until it ends. -/
theorem ends (registered : List Text) (j : Job) (next : Except Host.Fault ProcessOutput → Plan α)
    (f : Files) :
  Relation.ReflTransGen (Step here start) (⟨registered, .awaits j next⟩, f)
    (⟨registered, .plans (next (j.finish here f).1)⟩, (j.finish here f).2)
  := by
  induction j generalizing f with
  | ended r => exact .single .ended
  | touch path change k ih => exact .head .touch (ih _ _)

/-- A fragment can go on until it comes to the value that it comes to when nothing else is done. -/
theorem returns (c : Progress α) (f : Files) :
  ∃ c' f', Relation.ReflTransGen (Step here start) (c, f) (c', f')
    ∧ c'.Returned (c.finish here start f).1
  := by
  have plans (p : Plan α) (registered : List Text) (f : Files) :
      ∃ c' f', Relation.ReflTransGen (Step here start) (⟨registered, .plans p⟩, f) (c', f')
        ∧ c'.Returned (p.finish here start f).1 := by
    induction p generalizing registered f with
    | done a => exact ⟨_, _, .refl, rfl⟩
    | register path next ih =>
        obtain ⟨c', f', steps, returned⟩ := ih (registered ++ [path]) f
        exact ⟨c', f', .head .register steps, returned⟩
    | makeDirectory path next ih =>
        obtain ⟨c', f', steps, returned⟩ := ih _ registered _
        exact ⟨c', f', .head .makeDirectory steps, returned⟩
    | write path content next ih =>
        obtain ⟨c', f', steps, returned⟩ := ih _ registered _
        exact ⟨c', f', .head .write steps, returned⟩
    | read path next ih =>
        obtain ⟨c', f', steps, returned⟩ := ih _ registered f
        exact ⟨c', f', .head .read steps, returned⟩
    | run command limit next ih =>
        obtain ⟨c', f', steps, returned⟩ := ih _ registered _
        exact ⟨c', f', .head .run ((ends registered (start command limit) next f).trans steps),
          returned⟩
    | remove path next ih =>
        obtain ⟨c', f', steps, returned⟩ := ih registered _
        exact ⟨c', f', .head .remove steps, returned⟩
  obtain ⟨registered, doing⟩ := c
  cases doing with
  | plans p => apply plans p registered f
  | awaits j next =>
      obtain ⟨c', f', steps, returned⟩ := plans (next (j.finish here f).1) registered _
      exact ⟨c', f', (ends registered j next f).trans steps, returned⟩

/-! ### What a fragment keeps on its way -/

/-- The plan of a fragment is staged, and a program that it has started touches only its files. -/
def Fits (directory : Text) (given : List Text) (ground : Plan.Ground) (gone : List Text)
    (c : Progress α) : Prop :=
  match c.doing with
  | .plans p => p.Staged directory given ground gone c.registered
  | .awaits j next => ground = .made ∧ gone = [] ∧ j.Within given ∧ given ⊆ c.registered
    ∧ ∀ r, (next r).Staged directory given .made [] c.registered

/-- A fragment whose plan is staged, with what it has registered among its paths. -/
structure Proper (directory : Text) (given : List Text) (c : Progress α) : Prop where
  own : c.registered ⊆ given
  fits : ∃ ground gone, c.Fits directory given ground gone

/-- A step registers no paths but its own, keeps the files sound, and changes none but those whose
paths are registered by then. -/
theorem Proper.step (proper : c.Proper directory given)
    (within : ∀ command limit, (start command limit).Within given) (sound : f.Sound)
    (step : Step here start (c, f) (c', f')) :
  c'.Proper directory given ∧ c.registered ⊆ c'.registered ∧ f'.Sound
    ∧ Files.Spares here c.registered f f'
  := by
  obtain ⟨own, ground, gone, fits⟩ := proper
  cases step with
  | register =>
      obtain ⟨-, fits, goes⟩ := Plan.Staged.of_register fits
      refine ⟨⟨?_, _, _, goes⟩, List.subset_append_left _ _, sound, .refl f⟩
      apply List.append_subset.mpr ⟨own, by simpa using fits⟩
  | makeDirectory =>
      obtain ⟨sound', spares⟩ := sound.makeAll_spares _ _
      obtain ⟨-, -, made, refused⟩ := Plan.Staged.of_makeDirectory fits
      refine ⟨⟨own, ?_⟩, List.Subset.refl _, sound', spares.mono (List.nil_subset _)⟩
      cases f.makeAll here _ with
      | error fault => exact ⟨_, _, refused fault⟩
      | ok g => exact ⟨_, _, made⟩
  | write =>
      obtain ⟨-, -, held, goes⟩ := Plan.Staged.of_write fits
      obtain ⟨sound', spares⟩ := sound.write_spares _ _ _ _
      exact ⟨⟨own, _, _, goes _⟩, List.Subset.refl _, sound', spares.mono (by simpa using held)⟩
  | read =>
      obtain ⟨-, -, -, goes⟩ := Plan.Staged.of_read fits
      exact ⟨⟨own, _, _, goes _⟩, List.Subset.refl _, sound, .refl f⟩
  | run =>
      obtain ⟨rfl, rfl, held, goes⟩ := Plan.Staged.of_run fits
      exact ⟨⟨own, .made, [], rfl, rfl, within _ _, held, goes⟩, List.Subset.refl _, sound, .refl f⟩
  | touch =>
      obtain ⟨rfl, rfl, ⟨touches, inside⟩, held, goes⟩ := fits
      obtain ⟨sound', spares⟩ := sound.touch_spares _ _
      exact ⟨⟨own, .made, [], rfl, rfl, inside _, held, goes⟩, List.Subset.refl _, sound',
        spares.mono (by simpa using held touches)⟩
  | ended =>
      obtain ⟨-, -, -, -, goes⟩ := fits
      exact ⟨⟨own, _, _, goes _⟩, List.Subset.refl _, sound, .refl f⟩
  | remove =>
      obtain ⟨-, held, goes⟩ := Plan.Staged.of_remove fits
      exact ⟨⟨own, _, _, goes⟩, List.Subset.refl _, sound.settled_remove _,
        (Files.remove_spares _).mono (by simpa using held)⟩

/-! ### Following -/

/-- A fragment goes on among files as it would among others: its directory can be made among both,
and then the same is at its paths. When it has made its directory, this is there among both. What it
has removed is gone among the others. -/
structure Follows (here : Host.Path) (directory : Text) (given : List Text) (c : Progress α)
    (f g : Files) : Prop where
  own : c.registered ⊆ given
  twins : Files.Twins here (Octets.ofText directory) given f g
  course : ∃ ground gone, c.Fits directory given ground gone ∧ ground ≠ .refused
    ∧ (ground = .made → f.Opens here (Octets.ofText directory)
      ∧ g.Opens here (Octets.ofText directory))
    ∧ ∀ path ∈ gone, g.regularAt? here path = none

/-- What a step of a fragment does among the files it can also do among the others, and it goes on
as it would among these. -/
theorem Follows.step
    (lies : ∀ path ∈ given, Files.Lies (Octets.ofText directory) (Octets.ofText path))
    (within : ∀ command limit, (start command limit).Within given)
    (follows : c.Follows here directory given f g) (step : Step here start (c, f) (c', f')) :
  Files.Alters here (Octets.ofText directory) given f f'
    ∧ ∃ g', Step here start (c, g) (c', g') ∧ c'.Follows here directory given f' g'
  := by
  obtain ⟨own, twins, ground, gone, fits, unrefused, there, clean⟩ := follows
  have self := twins.ready.alters_self given
  have sound := twins.ready.sound
  have sound' := twins.ready'.sound
  cases step with
  | register =>
      obtain ⟨rfl, held, goes⟩ := Plan.Staged.of_register fits
      refine ⟨self, g, .register, ?_, twins, ground, [], goes, unrefused, there, nofun⟩
      apply List.append_subset.mpr ⟨own, by simpa using held⟩
  | @makeDirectory registered path next =>
      obtain ⟨rfl, rfl, made, -⟩ := Plan.Staged.of_makeDirectory fits
      have answer {h : Files} (ready : h.Ready here (Octets.ofText path)) :
          ((h.makeAll here (Octets.ofText path)).map fun _ => ()) = .ok () := by
        rw [ready.made]
        rfl
      have step' : Step here start (⟨registered, .plans (.makeDirectory path next)⟩, g)
          (⟨registered, .plans (next (.ok ()))⟩, Files.prepared here (Octets.ofText path) g) := by
        rw [← answer twins.ready']
        exact .makeDirectory
      rw [answer twins.ready]
      exact ⟨twins.ready.alters_prepared given, _, step', own, twins.prepared, .made, [], made,
        nofun, fun _ => ⟨twins.ready.opens, twins.ready'.opens⟩, nofun⟩
  | write =>
      obtain ⟨rfl, rfl, held, goes⟩ := Plan.Staged.of_write fits
      obtain ⟨opens, opens'⟩ := there rfl
      have inside := lies _ (own held)
      obtain ⟨answer, alters, twins', stays⟩ := twins.operate inside opens opens' (own held)
        (sound.write_obeys inside) (sound'.write_obeys inside) ⟨_, rfl⟩
        (sound.write_spares _ _ _ _).1 (sound'.write_spares _ _ _ _).1
      rw [answer]
      exact ⟨alters, _, .write, own, twins', .made, [], goes _, nofun,
        fun _ => ⟨alters.opens opens, stays⟩, nofun⟩
  | @read registered path next =>
      obtain ⟨rfl, rfl, held, goes⟩ := Plan.Staged.of_read fits
      obtain ⟨opens, opens'⟩ := there rfl
      have answer : Plan.textIn f here path = Plan.textIn g here path := by
        unfold Plan.textIn Files.read
        rw [twins.find (lies _ (own held)) opens opens' (own held)]
      rw [answer]
      exact ⟨self, g, .read, own, twins, .made, [], goes _, nofun, there, nofun⟩
  | run =>
      obtain ⟨rfl, rfl, held, goes⟩ := Plan.Staged.of_run fits
      exact ⟨self, g, .run, own, twins, .made, [], ⟨rfl, rfl, within _ _, held, goes⟩, nofun, there,
        nofun⟩
  | @touch registered path =>
      obtain ⟨rfl, rfl, ⟨touches, inside⟩, held, goes⟩ := fits
      obtain ⟨opens, opens'⟩ := there rfl
      have answer : f.regularAt? here path = g.regularAt? here path := by
        unfold Files.regularAt?
        rw [twins.find (lies _ touches) opens opens' touches]
      obtain ⟨-, alters, twins', stays⟩ := twins.operate (lies _ touches) opens opens' touches
        sound.touch_obeys sound'.touch_obeys ⟨_, rfl⟩ (sound.touch_spares _ _).1
        (sound'.touch_spares _ _).1
      rw [answer]
      exact ⟨alters, _, .touch, own, twins', .made, [], ⟨rfl, rfl, inside _, held, goes⟩, nofun,
        fun _ => ⟨alters.opens opens, stays⟩, nofun⟩
  | ended =>
      obtain ⟨rfl, rfl, -, -, goes⟩ := fits
      exact ⟨self, g, .ended, own, twins, .made, [], goes _, nofun, there, nofun⟩
  | @remove registered path =>
      obtain ⟨asked, held, goes⟩ := Plan.Staged.of_remove fits
      obtain rfl := Plan.Ground.eq_made asked unrefused
      obtain ⟨opens, opens'⟩ := there rfl
      obtain ⟨-, alters, twins', stays⟩ := twins.operate (lies _ (own held)) opens opens' (own held)
        Files.remove_obeys Files.remove_obeys ⟨_, rfl⟩ (sound.settled_remove _)
        (sound'.settled_remove _)
      refine ⟨alters, _, .remove, own, twins', .made, _, goes, nofun,
        fun _ => ⟨alters.opens opens, stays⟩, ?_⟩
      intro path' removed
      rcases List.mem_append.mp removed with before | last
      · apply Files.regularAt?_remove_of_none (clean path' before)
      · obtain rfl := List.mem_singleton.mp last
        apply Files.regularAt?_remove

/-- A step of another fragment makes no difference, if it has other places. -/
theorem Follows.beside {given' : List Text} (follows : c.Follows here directory given f g)
    (alters : Files.Alters here (Octets.ofText directory) given' f f')
    (apart : ∀ path ∈ given, ∀ path' ∈ given',
      Files.place here (Octets.ofText path') ≠ Files.place here (Octets.ofText path)) :
  c.Follows here directory given f' g
  := by
  obtain ⟨own, twins, ground, gone, fits, unrefused, there, clean⟩ := follows
  refine ⟨own, twins.beside alters apart, ground, gone, fits, unrefused, ?_, clean⟩
  intro made
  exact ⟨alters.opens (there made).1, (there made).2⟩

/-- When a fragment has come to its value, its files are gone. -/
theorem Follows.clean {a : α}
    (lies : ∀ path ∈ given, Files.Lies (Octets.ofText directory) (Octets.ofText path))
    (follows : c.Follows here directory given f g) (returned : c.Returned a) :
  ∀ path ∈ c.registered, f.regularAt? here path = none
  := by
  obtain ⟨own, twins, ground, gone, fits, unrefused, there, clean⟩ := follows
  intro path held
  have staged : (Plan.done a).Staged directory given ground gone c.registered := by
    unfold Fits at fits
    rwa [show c.doing = _ from returned] at fits
  have asked := staged.asked (List.ne_nil_of_mem held)
  obtain rfl := Plan.Ground.eq_made asked unrefused
  obtain ⟨opens, opens'⟩ := there rfl
  unfold Files.regularAt?
  rw [twins.find (lies _ (own held)) opens opens' (own held)]
  apply clean
  rwa [staged.of_done]

/-- Where the directory cannot be made, a step of a fragment changes no files. -/
theorem Proper.still
    (lies : ∀ path ∈ given, Files.Lies (Octets.ofText directory) (Octets.ofText path))
    (proper : c.Proper directory given) (sound : f.Sound)
    (barren : ¬f.Ready here (Octets.ofText directory)) (step : Step here start (c, f) (c', f')) :
  f' = f
  := by
  obtain ⟨own, ground, gone, fits⟩ := proper
  obtain ⟨unmade, closed⟩ := sound.still_of_not_ready barren
  cases step with
  | register | read | run | ended => rfl
  | makeDirectory =>
      obtain ⟨-, rfl, -⟩ := Plan.Staged.of_makeDirectory fits
      exact unmade
  | write =>
      obtain ⟨-, -, held, -⟩ := Plan.Staged.of_write fits
      have inside := lies _ (own held)
      exact (sound.write_obeys inside).still inside closed
  | touch =>
      obtain ⟨-, -, ⟨touches, -⟩, -⟩ := fits
      exact sound.touch_obeys.still (lies _ touches) closed
  | remove =>
      obtain ⟨-, held, -⟩ := Plan.Staged.of_remove fits
      exact Files.remove_obeys.still (lies _ (own held)) closed

end Progress

end NotebookEngine
