import NotebookEngine.Proofs.Host.Files

/-!
# A shared directory

What is done at a path within a directory hangs on what is at its place, once the directory is there
(`Files.Obeys`, `Files.Obeys.congr`). Files are ready when the directory can be made or is there
already (`Files.Ready`); how they are once it is made (`Files.prepared`) is all that counts for what
is done within it.
-/

namespace NotebookEngine

namespace Host

namespace Files

variable {f g : Files} {here p q : Path} {path directory name : Octets}

/-! ### Paths within a directory -/

/-- A path to a name within a directory. -/
def Lies (directory path : Octets) : Prop :=
  ∃ name, IsName name ∧ path = within directory name

/-- A path that lies within a directory leads through it. -/
theorem Lies.inside (lies : Lies directory path) (located : f.locate here path = .ok p) :
  f.Opens here directory ∧ f.node? p.dropLast = some .directory
  := by
  obtain ⟨name, isName, rfl⟩ := lies
  have opens := opens_of_locate isName located
  use opens
  rw [← locate_eq_place located, place_within isName, List.dropLast_concat]
  exact opens.isDirectory

theorem Lies.locate_congr (lies : Lies directory path) (opens : f.Opens here directory)
    (opens' : g.Opens here directory) :
  f.locate here path = g.locate here path
  := by
  obtain ⟨name, isName, rfl⟩ := lies
  apply opens.locate_congr opens' isName

/-! ### Operations at a path -/

/-- An operation at a path is refused if the path cannot be followed, and otherwise done at its
place, by what has been there. -/
def Obeys (f : Files) (here : Path) (path : Octets) (act : Option Node → Except Fault (Option Node))
    (r : Except Fault Files) : Prop :=
  match f.locate here path with
  | .error fault => r = .error fault
  | .ok p => f.ActsAt p (act (f.node? p)) r

/-- What is at a place once a program has found a regular file there, or nothing, and has left
something else. -/
def touched (change : Option (Nat × Octets) → Option (Nat × Octets)) :
    Option Node → Except Fault (Option Node)
  | some (.file mode content) =>
    .ok ((change (some (mode, content))).map fun (mode, content) => .file mode content)
  | none => .ok ((change none).map fun (mode, content) => .file mode content)
  | some .directory => .error .isDirectory
  | some _ => .error .accessDenied

/-- A program finds a regular file at a path, or nothing, and leaves something else there. -/
def touch (f : Files) (here : Path) (path : Octets)
    (change : Option (Nat × Octets) → Option (Nat × Octets)) : Except Fault Files := do
  let p ← f.locate here path
  match ← touched change (f.node? p) with
  | some n => .ok (f.put p n)
  | none => .ok (f.drop p)

theorem Sound.touch (sound : f.Sound) {change : Option (Nat × Octets) → Option (Nat × Octets)}
    (done : f.touch here path change = .ok g) :
  g.Sound
  := by
  obtain ⟨p, -, done⟩ := bind_eq_ok_iff.mp done
  obtain ⟨n, -, done⟩ := bind_eq_ok_iff.mp done
  split at done <;> cases done
  · apply sound.put
  · apply sound.drop

theorem Sound.write_obeys {content : Octets} {mode : Nat} (sound : f.Sound)
    (lies : Lies directory path) :
  f.Obeys here path (written mode content) (f.write here path content mode)
  := by
  unfold Obeys
  split
  case h_1 fault refused =>
    simp [Files.write, Files.openForWriting, refused, bind, Except.bind]
  case h_2 p located =>
    apply sound.write_actsAt located
    intro _
    simpa [isDirectoryAt] using (lies.inside located).2

theorem remove_obeys :
  f.Obeys here path removed (f.remove here path)
  := by
  unfold Obeys
  split
  case h_1 fault refused => simp [remove, find, refused, bind, Except.bind]
  case h_2 p located => apply remove_actsAt located

theorem Sound.touch_obeys {change : Option (Nat × Octets) → Option (Nat × Octets)}
    (sound : f.Sound) :
  f.Obeys here path (touched change) (f.touch here path change)
  := by
  unfold Obeys
  split
  case h_1 fault refused => simp [Files.touch, refused, bind, Except.bind]
  case h_2 p located =>
    unfold ActsAt
    split
    case h_1 fault refused => simp [Files.touch, located, refused, bind, Except.bind]
    case h_2 n acts =>
      have below : p ≠ [] := by
        rintro rfl
        cases acts
      cases n with
      | none =>
          refine ⟨f.drop p, ?_, becomes_drop below⟩
          simp [Files.touch, located, acts, bind, Except.bind]
      | some n =>
          refine ⟨f.put p n, ?_, sound.becomes_put below n⟩
          simp [Files.touch, located, acts, bind, Except.bind]

namespace Obeys

variable {act : Option Node → Except Fault (Option Node)} {r r' : Except Fault Files}

/-- An operation at a path changes what is at its place and nothing else; a directory stays. -/
theorem becomes (obeys : f.Obeys here path act r)
    (stays : ∃ fault, act (some .directory) = .error fault) :
  ∃ n, f.Becomes (place here path) n (f.settled r)
    ∧ (f.node? (place here path) = some .directory → n = some .directory)
  := by
  have refused {fault : Fault} (same : r = .error fault) :
      ∃ n, f.Becomes (place here path) n (f.settled r)
        ∧ (f.node? (place here path) = some .directory → n = some .directory) := by
    rw [same]
    exact ⟨_, becomes_self _, id⟩
  unfold Obeys at obeys
  split at obeys
  case h_1 => exact refused obeys
  case h_2 p located =>
    obtain rfl := locate_eq_place located
    unfold ActsAt at obeys
    split at obeys
    case h_1 => exact refused obeys
    case h_2 n acts =>
      obtain ⟨g, rfl, becomes⟩ := obeys
      refine ⟨n, becomes, ?_⟩
      intro isDirectory
      obtain ⟨fault, refuses⟩ := stays
      rw [isDirectory, refuses] at acts
      cases acts

/-- Where the directory is there and the same is at the place, an operation does the same. -/
theorem congr (obeys : f.Obeys here path act r) (obeys' : g.Obeys here path act r')
    (locates : f.locate here path = g.locate here path)
    (same : f.node? (place here path) = g.node? (place here path)) :
  (r.map fun _ => ()) = (r'.map fun _ => ())
    ∧ (f.settled r).node? (place here path) = (g.settled r').node? (place here path)
  := by
  unfold Obeys at obeys obeys'
  rw [← locates] at obeys'
  split at obeys
  case h_1 fault refused =>
    rw [refused] at obeys'
    rw [obeys, obeys']
    exact ⟨rfl, same⟩
  case h_2 p located =>
    rw [located] at obeys'
    obtain rfl := locate_eq_place located
    dsimp only at obeys'
    rw [← same] at obeys'
    cases acts : act (f.node? (place here path)) with
    | error fault =>
        rw [acts] at obeys obeys'
        obtain rfl : r = .error fault := obeys
        obtain rfl : r' = .error fault := obeys'
        exact ⟨rfl, same⟩
    | ok n =>
        rw [acts] at obeys obeys'
        obtain ⟨f', rfl, becomes⟩ := obeys
        obtain ⟨g', rfl, becomes'⟩ := obeys'
        exact ⟨rfl, becomes.there.trans becomes'.there.symm⟩

end Obeys

theorem Sound.touch_spares (sound : f.Sound) (path : Text)
    (change : Option (Nat × Octets) → Option (Nat × Octets)) :
  (f.settled (f.touch here (Octets.ofText path) change)).Sound
    ∧ Spares here [path] f (f.settled (f.touch here (Octets.ofText path) change))
  := by
  constructor
  · apply sound.settled
    intro g done
    exact sound.touch done
  · obtain ⟨n, becomes, -⟩ := sound.touch_obeys.becomes ⟨_, rfl⟩
    exact becomes.spares

/-- Where the directory cannot be opened, an operation at a path within it does nothing. -/
theorem Obeys.still {act : Option Node → Except Fault (Option Node)} {r : Except Fault Files}
    (obeys : f.Obeys here path act r) (lies : Lies directory path)
    (closed : ¬f.Opens here directory) :
  f.settled r = f
  := by
  unfold Obeys at obeys
  split at obeys
  case h_1 =>
    rw [obeys]
    rfl
  case h_2 p located => exact absurd (lies.inside located).1 closed

/-! ### Files with a directory to be made -/

/-- The files once a directory was made. -/
def prepared (here : Path) (directory : Octets) (f : Files) : Files :=
  f.settled (f.makeAll here directory)

/-- A directory can be made among the files, or is there. -/
structure Ready (here : Path) (directory : Octets) (f : Files) : Prop where
  sound : f.Sound
  made : f.makeAll here directory = .ok (prepared here directory f)
  opens : (prepared here directory f).Opens here directory

theorem Opens.prepared (opens : f.Opens here directory) :
  prepared here directory f = f
  := by
  rw [Files.prepared, opens.makeAll]
  rfl

theorem Sound.ready (sound : f.Sound) (opens : f.Opens here directory) :
  f.Ready here directory
  := by
  refine ⟨sound, ?_, ?_⟩
  · rw [opens.prepared, opens.makeAll]
  · rwa [opens.prepared]

/-- Where a directory cannot be made, files stay as they are, and it is not there. -/
theorem Sound.still_of_not_ready (sound : f.Sound) (barren : ¬f.Ready here directory) :
  f.settled (f.makeAll here directory) = f ∧ ¬f.Opens here directory
  := by
  constructor
  · cases made : f.makeAll here directory with
    | error fault => rfl
    | ok g =>
        have same : prepared here directory f = g := by
          rw [prepared, made]
          rfl
        obtain ⟨-, -, ⟨-, unchanged⟩ | opens⟩ := makeAll_made sound made
        · exact unchanged
        · exact absurd ⟨sound, same ▸ made, same.symm ▸ opens⟩ barren
  · intro opens
    exact barren (sound.ready opens)

/-- Among files for which a directory can be made, only what is at the places of some paths is
changed. -/
structure Alters (here : Path) (directory : Octets) (paths : List Text) (f g : Files) : Prop where
  ready : g.Ready here directory
  opens : f.Opens here directory → g.Opens here directory
  elsewhere : ∀ q, (∀ path ∈ paths, place here (Octets.ofText path) ≠ q) →
    (prepared here directory g).node? q = (prepared here directory f).node? q

theorem Ready.alters_self (ready : f.Ready here directory) (paths : List Text) :
  Alters here directory paths f f
  := ⟨ready, id, fun _ _ => rfl⟩

/-- To make the directory changes nothing once it is made. -/
theorem Ready.alters_prepared (ready : f.Ready here directory) (paths : List Text) :
  Alters here directory paths f (prepared here directory f)
  := by
  obtain ⟨sound, -, -⟩ := makeAll_made ready.sound ready.made
  refine ⟨sound.ready ready.opens, fun _ => ready.opens, ?_⟩
  intro q _
  rw [ready.opens.prepared]

/-- So does a change at the place of a path, if it leaves directories. -/
theorem Becomes.alters {path : Text} {paths : List Text} {n : Option Node}
    (becomes : f.Becomes (place here (Octets.ofText path)) n g)
    (stays : f.node? (place here (Octets.ofText path)) = some .directory → n = some .directory)
    (own : path ∈ paths) (opens : f.Opens here directory) (sound : g.Sound) :
  Alters here directory paths f g
  := by
  have opens' : g.Opens here directory := by
    apply opens.mono
    intro q isDirectory
    by_cases there : q = place here (Octets.ofText path)
    · rw [there] at isDirectory ⊢
      rw [becomes.there, stays isDirectory]
    · rw [becomes.elsewhere q there, isDirectory]
  refine ⟨sound.ready opens', fun _ => opens', ?_⟩
  intro q away
  rw [opens.prepared, opens'.prepared, becomes.elsewhere]
  exact Ne.symm (away path own)

/-! ### Files that are alike -/

/-- A directory can be made among the files of both, and once it is made, the same is at the places
of some paths. -/
structure Twins (here : Path) (directory : Octets) (paths : List Text) (f g : Files) : Prop where
  ready : f.Ready here directory
  ready' : g.Ready here directory
  same : ∀ path ∈ paths, (prepared here directory f).node? (place here (Octets.ofText path))
    = (prepared here directory g).node? (place here (Octets.ofText path))

namespace Twins

variable {path : Text} {paths paths' : List Text}

theorem prepared (twins : Twins here directory paths f g) :
  Twins here directory paths (prepared here directory f) (prepared here directory g)
  := by
  refine ⟨(twins.ready.alters_prepared []).ready, (twins.ready'.alters_prepared []).ready, ?_⟩
  rw [twins.ready.opens.prepared, twins.ready'.opens.prepared]
  exact twins.same

/-- What is changed at other places makes no difference. -/
theorem beside {f' : Files} (twins : Twins here directory paths f g)
    (alters : Alters here directory paths' f f')
    (apart : ∀ path ∈ paths, ∀ path' ∈ paths',
      place here (Octets.ofText path') ≠ place here (Octets.ofText path)) :
  Twins here directory paths f' g
  := by
  refine ⟨alters.ready, twins.ready', ?_⟩
  intro path own
  rw [alters.elsewhere _ (apart path own), twins.same path own]

variable (lies : Lies directory (Octets.ofText path)) (opens : f.Opens here directory)
  (opens' : g.Opens here directory)

include lies opens opens' in
/-- The same is found at the paths. -/
theorem find (twins : Twins here directory paths f g) (own : path ∈ paths) :
  f.find here (Octets.ofText path) = g.find here (Octets.ofText path)
  := by
  apply find_congr (lies.locate_congr opens opens')
  have same := twins.same path own
  rwa [opens.prepared, opens'.prepared] at same

include lies opens opens' in
/-- An operation at one of the paths has the same answer and leaves files that are alike. -/
theorem operate {act : Option Node → Except Fault (Option Node)} {r r' : Except Fault Files}
    (twins : Twins here directory paths f g) (own : path ∈ paths)
    (obeys : f.Obeys here (Octets.ofText path) act r)
    (obeys' : g.Obeys here (Octets.ofText path) act r')
    (stays : ∃ fault, act (some .directory) = .error fault)
    (sound : (f.settled r).Sound) (sound' : (g.settled r').Sound) :
  (r.map fun _ => ()) = (r'.map fun _ => ())
    ∧ Alters here directory paths f (f.settled r)
    ∧ Twins here directory paths (f.settled r) (g.settled r')
    ∧ (g.settled r').Opens here directory
  := by
  have alike : ∀ path ∈ paths,
      f.node? (place here (Octets.ofText path)) = g.node? (place here (Octets.ofText path)) := by
    have same := twins.same
    rwa [opens.prepared, opens'.prepared] at same
  obtain ⟨n, becomes, keeps⟩ := obeys.becomes stays
  obtain ⟨n', becomes', keeps'⟩ := obeys'.becomes stays
  have alters := becomes.alters keeps own opens sound
  have alters' := becomes'.alters keeps' own opens' sound'
  obtain ⟨answer, there⟩ := obeys.congr obeys' (lies.locate_congr opens opens') (alike path own)
  refine ⟨answer, alters, ⟨alters.ready, alters'.ready, ?_⟩, alters'.opens opens'⟩
  rw [(alters.opens opens).prepared, (alters'.opens opens').prepared]
  intro path' own'
  by_cases one : place here (Octets.ofText path') = place here (Octets.ofText path)
  · rw [one, there]
  · rw [becomes.elsewhere _ one, becomes'.elsewhere _ one, alike path' own']

end Twins

end Files

end Host

end NotebookEngine
