import NotebookEngine.Proofs.Backend.Progress

/-!
# Fragments that are run together

Two fragments with files of their own are run at once, in the same directory: their steps come in
any order (`Together`). Since the names of their files are different (`Backend.fileName_ne`), neither
makes a difference to the other (`Task.independent`).
-/

namespace NotebookEngine

open Host (Octets Files Site Machine)

/-! ### Two fragments -/

/-- Two fragments go on together, in any order of their steps. -/
inductive Together {α : Type} (here : Host.Path) (start start' : Command → Nat → Job)
    (c d : Progress α) (f : Files) : Progress α → Progress α → Files → Prop
  | begun : Together here start start' c d f c d f
  | first {c₁ c₂ d₁ : Progress α} {f₁ f₂ : Files}
      (together : Together here start start' c d f c₁ d₁ f₁)
      (step : Progress.Step here start (c₁, f₁) (c₂, f₂)) :
    Together here start start' c d f c₂ d₁ f₂
  | second {c₁ d₁ d₂ : Progress α} {f₁ f₂ : Files}
      (together : Together here start start' c d f c₁ d₁ f₁)
      (step : Progress.Step here start' (d₁, f₁) (d₂, f₂)) :
    Together here start start' c d f c₁ d₂ f₂

namespace Together

variable {α : Type} {here : Host.Path} {directory : Text} {given given' : List Text}
  {start start' : Command → Nat → Job} {c d c' d' : Progress α} {f f' : Files}

theorem swap (together : Together here start start' c d f c' d' f') :
  Together here start' start d c f d' c' f'
  := by
  induction together with
  | begun => exact .begun
  | first _ step ih => exact ih.second step
  | second _ step ih => exact ih.first step

theorem trans {c'' d'' : Progress α} {f'' : Files}
    (together : Together here start start' c d f c' d' f')
    (goes : Together here start start' c' d' f' c'' d'' f'') :
  Together here start start' c d f c'' d'' f''
  := by
  induction goes with
  | begun => exact together
  | first _ step ih => exact ih.first step
  | second _ step ih => exact ih.second step

/-- The first fragment goes on alone. -/
theorem steps (together : Together here start start' c d f c' d' f') {c'' : Progress α} {f'' : Files}
    (steps : Relation.ReflTransGen (Progress.Step here start) (c', f') (c'', f'')) :
  Together here start start' c d f c'' d' f''
  := by
  generalize same : (c'', f'') = last at steps
  induction steps generalizing c'' f'' with
  | refl =>
      obtain ⟨rfl, rfl⟩ := Prod.mk.inj same
      exact together
  | tail _ step ih =>
      subst same
      exact (ih rfl).first step

/-- Two fragments can go on until both have come to their values. -/
theorem completes (here : Host.Path) (start start' : Command → Nat → Job) (c d : Progress α)
    (f : Files) :
  ∃ c' d' f' a b, Together here start start' c d f c' d' f' ∧ c'.Returned a ∧ d'.Returned b
  := by
  obtain ⟨c', f₁, steps, returned⟩ := c.returns f
  obtain ⟨d', f₂, steps', returned'⟩ := d.returns f₁
  exact ⟨c', d', f₂, _, _, ((Together.begun.steps steps).swap.steps steps').swap, returned, returned'⟩

/-- Both register paths of their own, and no files are changed but those whose paths are registered
by then. -/
theorem keeps (within : ∀ command limit, (start command limit).Within given)
    (within' : ∀ command limit, (start' command limit).Within given')
    (proper : c.Proper directory given) (proper' : d.Proper directory given') (sound : f.Sound)
    (together : Together here start start' c d f c' d' f') :
  c'.Proper directory given ∧ d'.Proper directory given' ∧ f'.Sound
    ∧ Files.Spares here (c'.registered ++ d'.registered) f f'
  := by
  induction together with
  | begun => exact ⟨proper, proper', sound, .refl f⟩
  | first together step ih =>
      obtain ⟨proper, proper', sound, spares⟩ := ih
      obtain ⟨proper, more, sound, changes⟩ := proper.step within sound step
      refine ⟨proper, proper', sound, ?_⟩
      apply (spares.mono _).trans (changes.mono _)
      · apply List.append_subset.mpr
        exact ⟨List.Subset.trans more (List.subset_append_left _ _), List.subset_append_right _ _⟩
      · exact List.Subset.trans more (List.subset_append_left _ _)
  | second together step ih =>
      obtain ⟨proper, proper', sound, spares⟩ := ih
      obtain ⟨proper', more, sound, changes⟩ := proper'.step within' sound step
      refine ⟨proper, proper', sound, ?_⟩
      apply (spares.mono _).trans (changes.mono _)
      · apply List.append_subset.mpr
        exact ⟨List.subset_append_left _ _, List.Subset.trans more (List.subset_append_right _ _)⟩
      · exact List.Subset.trans more (List.subset_append_right _ _)

section Sharing

variable (lies : ∀ path ∈ given, Files.Lies (Octets.ofText directory) (Octets.ofText path))
  (lies' : ∀ path ∈ given', Files.Lies (Octets.ofText directory) (Octets.ofText path))
  (within : ∀ command limit, (start command limit).Within given)
  (within' : ∀ command limit, (start' command limit).Within given')

include lies lies' within within' in
/-- Where the directory cannot be made, no files are changed. -/
theorem still (proper : c.Proper directory given) (proper' : d.Proper directory given')
    (sound : f.Sound) (barren : ¬f.Ready here (Octets.ofText directory))
    (together : Together here start start' c d f c' d' f') :
  f' = f ∧ c'.finish here start f = c.finish here start f
    ∧ d'.finish here start' f = d.finish here start' f
  := by
  induction together with
  | begun => exact ⟨rfl, rfl, rfl⟩
  | first together step ih =>
      obtain ⟨rfl, ends, ends'⟩ := ih
      obtain rfl := (keeps within within' proper proper' sound together).1.still lies sound barren step
      exact ⟨rfl, step.finish.trans ends, ends'⟩
  | second together step ih =>
      obtain ⟨rfl, ends, ends'⟩ := ih
      obtain rfl :=
        (keeps within within' proper proper' sound together).2.1.still lies' sound barren step
      exact ⟨rfl, ends, step.finish.trans ends'⟩

include lies lies' within within' in
/-- Where the directory can be made, each fragment goes on as it would alone, if they have other
places. -/
theorem follows
    (apart : ∀ path ∈ given, ∀ path' ∈ given',
      Files.place here (Octets.ofText path) ≠ Files.place here (Octets.ofText path'))
    (begins : c.Follows here directory given f f) (begins' : d.Follows here directory given' f f)
    (together : Together here start start' c d f c' d' f') :
  (∃ g, c'.finish here start g = c.finish here start f ∧ c'.Follows here directory given f' g)
    ∧ ∃ g, d'.finish here start' g = d.finish here start' f ∧ d'.Follows here directory given' f' g
  := by
  induction together with
  | begun => exact ⟨⟨f, rfl, begins⟩, f, rfl, begins'⟩
  | first together step ih =>
      obtain ⟨⟨g, ends, follows⟩, g', ends', follows'⟩ := ih
      obtain ⟨alters, h, alone, goes⟩ := follows.step lies within step
      refine ⟨⟨h, alone.finish.trans ends, goes⟩, g', ends', ?_⟩
      apply follows'.beside alters
      intro path' own' path own
      apply apart path own path' own'
  | second together step ih =>
      obtain ⟨⟨g, ends, follows⟩, g', ends', follows'⟩ := ih
      obtain ⟨alters, h, alone, goes⟩ := follows'.step lies' within' step
      refine ⟨⟨g, ends, ?_⟩, h, alone.finish.trans ends', goes⟩
      apply follows.beside alters
      intro path own path' own' same
      apply apart path own path' own' same.symm

end Sharing

end Together

/-! ### Names -/

theorem ofText_eq_nil_iff {s : Text} :
  Octets.ofText s = [] ↔ s = []
  := by
  constructor
  · intro none
    exact Octets.ofText_injective none
  · rintro rfl
    rfl

/-- A text ends with a slash just when its octets do. -/
theorem endsWith_slash_ofText (s : Text) :
  Text.endsWith (Octets.ofText s) ['/'] = Text.endsWith s ['/']
  := by
  rw [Bool.eq_iff_iff, Files.endsWith_slash_iff, Files.endsWith_slash_iff]
  constructor
  · rintro ⟨octets, ended⟩
    rcases List.eq_nil_or_concat s with rfl | ⟨t, c, rfl⟩
    · cases octets <;> cases ended
    · have some : Octets.ofText [c] ≠ [] := by
        rw [Ne, ofText_eq_nil_iff]
        nofun
      have last : (Octets.ofText [c]).getLast? = .some '/' := by
        rw [← List.getLast?_append_of_ne_nil (Octets.ofText t) some, ← Octets.ofText_append,
          ← List.concat_eq_append, ended, List.getLast?_concat]
      have slash : '/' ∈ [c] := by
        by_contra free
        exact Octets.slash_notMem_ofText free (List.mem_of_getLast? last)
      obtain rfl := List.mem_singleton.mp slash
      exact ⟨t, List.concat_eq_append⟩
  · rintro ⟨t, rfl⟩
    exact ⟨Octets.ofText t, Octets.ofText_append t ['/']⟩

theorem ofText_joinPath (directory name : Text) :
  Octets.ofText (joinPath directory name)
    = Files.within (Octets.ofText directory) (Octets.ofText name)
  := by
  have empty : (Octets.ofText directory).isEmpty = directory.isEmpty := by
    rw [Bool.eq_iff_iff, List.isEmpty_iff, List.isEmpty_iff, ofText_eq_nil_iff]
  unfold joinPath Files.within
  rw [empty, endsWith_slash_ofText]
  split
  · rw [Octets.ofText_append]
  · rw [Octets.ofText_append, ← List.singleton_append, Octets.ofText_append]
    rfl

theorem joinPath_injective (directory : Text) :
  Function.Injective (joinPath directory)
  := by
  intro name name' same
  unfold joinPath at same
  split at same
  · exact List.append_cancel_left same
  · exact List.tail_eq_of_cons_eq (List.append_cancel_left same)

namespace Backend

variable {b b' : Backend} {directory id id' : Text} {suffix suffix' : Text}

/-- Kinds of files begin with different letters. -/
theorem kind_append_injective {s t : Text} (same : b.kind ++ s = b'.kind ++ t) :
  s = t
  := by
  cases b <;> cases b' <;> simp_all [kind]

/-- The names of the files of two fragments are different, if their identifiers are different and
equally long. -/
theorem fileName_ne (length : id.length = id'.length) (differ : id ≠ id') :
  (b.staging directory id).fileName suffix ≠ (b'.staging directory id').fileName suffix'
  := by
  intro same
  unfold Staging.fileName at same
  simp only [List.append_assoc] at same
  have same := kind_append_injective (List.append_cancel_left same)
  exact differ (List.append_inj_left (List.tail_eq_of_cons_eq same) length)

theorem path_ne (length : id.length = id'.length) (differ : id ≠ id') :
  (b.staging directory id).path suffix ≠ (b'.staging directory id').path suffix'
  := by
  intro same
  exact fileName_ne length differ (joinPath_injective directory same)

/-- The name of a file is one within its directory. -/
theorem isName_fileName (whole : '/' ∉ id) (known : suffix ∈ b.suffixes) :
  Files.IsName (Octets.ofText ((b.staging directory id).fileName suffix))
  := by
  have plain : '/' ∉ (b.staging directory id).fileName suffix := by
    have kinds : '/' ∉ b.kind := by
      cases b <;> decide +kernel
    have endings : ∀ suffix ∈ b.suffixes, '/' ∉ suffix := by
      cases b <;> decide +kernel
    have start : '/' ∉ "polycell_".toList := by
      decide +kernel
    unfold Staging.fileName
    generalize "polycell_".toList = letters at start ⊢
    simp [staging, start, kinds, whole, endings suffix known]
  have begins : ∃ octets, Octets.ofText ((b.staging directory id).fileName suffix)
      = 'p' :: octets := by
    unfold Staging.fileName
    rw [List.append_assoc, List.append_assoc, Octets.ofText_append]
    exact ⟨_, rfl⟩
  obtain ⟨octets, begins⟩ := begins
  refine ⟨?_, Octets.slash_notMem_ofText plain, ?_, ?_⟩ <;> simp [begins]

/-- The paths of a fragment lie within its directory. -/
theorem paths_lie (whole : '/' ∉ id) :
  ∀ path ∈ b.paths directory id, Files.Lies (Octets.ofText directory) (Octets.ofText path)
  := by
  intro path own
  obtain ⟨suffix, known, rfl⟩ := List.mem_map.mp own
  exact ⟨_, isName_fileName whole known, ofText_joinPath directory _⟩

/-- The paths of two fragments lead to different places. -/
theorem paths_apart (here : Host.Path) (whole : '/' ∉ id) (whole' : '/' ∉ id')
    (length : id.length = id'.length) (differ : id ≠ id') :
  ∀ path ∈ b.paths directory id, ∀ path' ∈ b'.paths directory id',
    Files.place here (Octets.ofText path) ≠ Files.place here (Octets.ofText path')
  := by
  intro path own path' own' same
  obtain ⟨suffix, known, rfl⟩ := List.mem_map.mp own
  obtain ⟨suffix', known', rfl⟩ := List.mem_map.mp own'
  have octets (b : Backend) (id suffix : Text) : Octets.ofText ((b.staging directory id).path suffix)
      = Files.within (Octets.ofText directory)
        (Octets.ofText ((b.staging directory id).fileName suffix)) :=
    ofText_joinPath directory _
  rw [octets, octets, Files.place_within (isName_fileName whole known),
    Files.place_within (isName_fileName whole' known'), List.append_cancel_left_eq] at same
  exact fileName_ne length differ (Octets.ofText_injective (List.singleton_inj.mp same))

end Backend

/-! ### Tasks -/

/-- A fragment to be run with files of its own, the identifier of these, and what the programs do
that are started for it. -/
structure Task where
  backend : Backend
  config : Config
  tool : Option Text
  id : Text
  code : Text
  cellId : Text
  start : Command → Nat → Job

namespace Task

/-- The paths of the files of a task. -/
def paths (t : Task) : List Text :=
  t.backend.paths t.config.tempDir t.id

/-- The plan of a task. -/
def plan (t : Task) : Plan CellResult :=
  t.backend.plan t.config t.tool t.id t.code t.cellId

/-- A task before its first step. -/
def begun (t : Task) : Progress CellResult :=
  ⟨[], .plans t.plan⟩

/-- The result of a task that is alone with its files. -/
def alone (t : Task) (here : Host.Path) (f : Files) : CellResult :=
  (t.plan.finish here t.start f).1

/-- The identifier has thirty-two characters and is a name, and the programs touch only the files of
the task. -/
structure Proper (t : Task) : Prop where
  length : t.id.length = 32
  whole : '/' ∉ t.id
  within : ∀ command limit, (t.start command limit).Within t.paths

variable {t u : Task} {here : Host.Path} {f f' : Files} {c d : Progress CellResult}

theorem begun_proper (t : Task) :
  t.begun.Proper t.config.tempDir t.paths
  := ⟨List.nil_subset _, .unasked, [], t.backend.plan_staged t.config t.id t.code t.cellId t.tool⟩

theorem begun_follows (ready : f.Ready here (Octets.ofText t.config.tempDir)) :
  t.begun.Follows here t.config.tempDir t.paths f f
  := ⟨List.nil_subset _, ⟨ready, ready, fun _ _ => rfl⟩, .unasked, [],
    t.backend.plan_staged t.config t.id t.code t.cellId t.tool, nofun, nofun, nofun⟩

/-- A task that goes on together with another comes to the result to which it comes alone, and its
files are gone. -/
theorem Proper.returned (proper : t.Proper) (proper' : u.Proper)
    (share : t.config.tempDir = u.config.tempDir) (differ : t.id ≠ u.id) (sound : f.Sound)
    (together : Together here t.start u.start t.begun u.begun f c d f') {result : CellResult}
    (returned : c.Returned result) :
  result = t.alone here f ∧ ∀ path ∈ c.registered, f'.regularAt? here path = none
  := by
  have lies : ∀ path ∈ t.paths, Files.Lies (Octets.ofText t.config.tempDir) (Octets.ofText path) :=
    Backend.paths_lie proper.whole
  have lies' : ∀ path ∈ u.paths, Files.Lies (Octets.ofText t.config.tempDir) (Octets.ofText path) :=
    share ▸ Backend.paths_lie proper'.whole
  have fits' : u.begun.Proper t.config.tempDir u.paths := share ▸ u.begun_proper
  have value (g : Files) : (c.finish here t.start g).1 = result := by
    unfold Progress.finish
    rw [show c.doing = _ from returned]
    rfl
  by_cases ready : f.Ready here (Octets.ofText t.config.tempDir)
  · have apart : ∀ path ∈ t.paths, ∀ path' ∈ u.paths,
        Files.place here (Octets.ofText path) ≠ Files.place here (Octets.ofText path') := by
      unfold paths
      rw [← share]
      exact Backend.paths_apart here proper.whole proper'.whole
        (proper.length.trans proper'.length.symm) differ
    have begins' : u.begun.Follows here t.config.tempDir u.paths f f :=
      share ▸ u.begun_follows (share ▸ ready)
    obtain ⟨⟨g, ends, follows⟩, -⟩ := together.follows lies lies' proper.within proper'.within apart
      (t.begun_follows ready) begins'
    exact ⟨(value g).symm.trans (congrArg Prod.fst ends), follows.clean lies returned⟩
  · obtain ⟨rfl, ends, -⟩ := together.still lies lies' proper.within proper'.within t.begun_proper
      fits' sound ready
    have registers := (together.keeps proper.within proper'.within t.begun_proper fits' sound).1
    refine ⟨(value f').symm.trans (congrArg Prod.fst ends), ?_⟩
    intro path held
    have closed := (sound.still_of_not_ready ready).2
    unfold Files.regularAt?
    split
    case h_1 p mode content found =>
      obtain ⟨q, located, -⟩ := Host.bind_eq_ok_iff.mp found
      exact absurd ((lies path (registers.own held)).inside located).1 closed
    case h_2 => rfl

/-- Two tasks that share a directory and have different identifiers make no difference to each other,
in whatever order their steps come: they never register the same path, whatever suffixes they use;
each comes to the result to which it comes alone, and so it does on a machine whose programs do the
same; then its files are gone; and no others are changed. They can go on from everywhere until both
have come to their results. -/
theorem independent (t u : Task) (here : Host.Path) (f : Files) (proper : t.Proper)
    (proper' : u.Proper) (share : t.config.tempDir = u.config.tempDir) (differ : t.id ≠ u.id)
    (sound : f.Sound) :
  (∀ suffix suffix', (t.backend.staging t.config.tempDir t.id).path suffix
      ≠ (u.backend.staging u.config.tempDir u.id).path suffix')
    ∧ (∀ c d f', Together here t.start u.start t.begun u.begun f c d f' →
      c.registered.Disjoint d.registered
        ∧ Files.Spares here (c.registered ++ d.registered) f f'
        ∧ (∀ result, c.Returned result →
          result = t.alone here f ∧ ∀ path ∈ c.registered, f'.regularAt? here path = none)
        ∧ (∀ result, d.Returned result →
          result = u.alone here f ∧ ∀ path ∈ d.registered, f'.regularAt? here path = none)
        ∧ ∃ c' d' f'' result result', Together here t.start u.start c d f' c' d' f''
          ∧ c'.Returned result ∧ d'.Returned result')
    ∧ ∀ (site : Site) (m : Machine), site.directory = here → m.files = f →
      (t.plan.RunsAs site t.start m → (t.plan.perform site m).1 = t.alone here f)
        ∧ (u.plan.RunsAs site u.start m → (u.plan.perform site m).1 = u.alone here f)
  := by
  have length := proper.length.trans proper'.length.symm
  refine ⟨?_, ?_, ?_⟩
  · intro suffix suffix'
    rw [← share]
    apply Backend.path_ne length differ
  · intro c d f' together
    have fits' : u.begun.Proper t.config.tempDir u.paths := share ▸ u.begun_proper
    obtain ⟨registers, registers', -, spares⟩ :=
      together.keeps proper.within proper'.within t.begun_proper fits' sound
    refine ⟨?_, spares, ?_, ?_, Together.completes _ _ _ c d f'⟩
    · intro path held held'
      obtain ⟨suffix, -, same⟩ := List.mem_map.mp (registers.own held)
      obtain ⟨suffix', -, same'⟩ := List.mem_map.mp (registers'.own held')
      rw [← share] at same'
      exact Backend.path_ne length differ (same.trans same'.symm)
    · intro result returned
      apply proper.returned proper' share differ sound together returned
    · intro result returned
      apply proper'.returned proper share.symm differ.symm sound together.swap returned
  · rintro site m rfl rfl
    exact ⟨fun runs => congrArg Prod.fst (Plan.perform_eq_finish runs),
      fun runs => congrArg Prod.fst (Plan.perform_eq_finish runs)⟩

/-- A task with a program that leaves a report of a value. Its identifier is thirty-two times the
same letter. -/
def reporter (letter : Char) (value : Text) : Task where
  backend := .typed
  config := { tempDir := "/tmp".toList }
  tool := some "/reporter".toList
  id := List.replicate 32 letter
  code := "1 + 1".toList
  cellId := value
  start _ _ :=
    .touch ((Backend.typed.staging "/tmp".toList (List.replicate 32 letter)).path
        "_result.json".toList)
      (fun _ => some (420, "\x7b\"status\": \"ok\", \"result\": \"".toList ++ value
        ++ "\"\x7d".toList))
      fun _ => .ended (.ok ⟨.exited (.code 0), [], []⟩)

theorem reporter_proper {letter : Char} (plain : '/' ≠ letter) (value : Text) :
  (reporter letter value).Proper
  := by
  refine ⟨List.length_replicate, ?_, ?_⟩
  · intro slash
    exact plain (List.eq_of_mem_replicate slash)
  · intro command limit
    exact ⟨List.mem_cons_self, fun _ => trivial⟩

/-- A task whose value is two. -/
def two : Task :=
  reporter 'a' "2".toList

/-- A task whose value is three. -/
def three : Task :=
  reporter 'b' "3".toList

theorem two_alone :
  two.alone [] {} = .ok "2".toList (some "2".toList) [] []
  := by
  decide +kernel

theorem three_alone :
  three.alone [] {} = .ok "3".toList (some "3".toList) [] []
  := by
  decide +kernel

/-- Two tasks take turns at first, and then go on somehow. Each comes to its own value. -/
theorem independent_two_three :
  ∃ c d f, Together [] two.start three.start two.begun three.begun {} c d f
    ∧ c.Returned (.ok "2".toList (some "2".toList) [] [])
    ∧ d.Returned (.ok "3".toList (some "3".toList) [] [])
    ∧ ∀ path ∈ c.registered ++ d.registered, f.regularAt? [] path = none
  := by
  obtain ⟨-, always, -⟩ := independent two three [] {} (reporter_proper (by decide) _)
    (reporter_proper (by decide) _) rfl (by decide) .empty
  obtain ⟨c, d, f, turns⟩ :
      ∃ c d f, Together [] two.start three.start two.begun three.begun {} c d f :=
    ⟨_, _, _, (((Together.begun.first .register).second .register).first .makeDirectory).second
      .makeDirectory⟩
  obtain ⟨-, -, -, -, c, d, f, result, result', goes, returned, returned'⟩ := always c d f turns
  have together := turns.trans goes
  obtain ⟨-, -, first, second, -⟩ := always c d f together
  obtain ⟨value, clean⟩ := first result returned
  obtain ⟨value', clean'⟩ := second result' returned'
  rw [value, two_alone] at returned
  rw [value', three_alone] at returned'
  refine ⟨c, d, f, together, returned, returned', ?_⟩
  intro path held
  rcases List.mem_append.mp held with held | held
  · apply clean path held
  · apply clean' path held

end Task

end NotebookEngine
