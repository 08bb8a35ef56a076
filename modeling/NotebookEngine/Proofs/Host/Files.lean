import Mathlib.Data.List.Nodup
import Mathlib.Data.List.TakeWhile
import NotebookEngine.Proofs.Host.Paths
import NotebookEngine.Proofs.Host.Soundness

/-!
# What changes among files

Among sound files, what is at a place is changed there and nowhere else (`Files.Becomes`). So is a
file written or removed, by what is at its place (`Files.Sound.write_actsAt`,
`Files.remove_actsAt`). When directories are made, what was there stays (`Files.Grows`), and the
path of the last one leads to it (`Files.makeAll_made`).
-/

namespace NotebookEngine

namespace Host

namespace Files

variable {f g : Files} {here p q : Path} {path content : Octets} {mode number : Nat} {n : Node}

/-! ### What is at a place -/

theorem node?_of_ne_nil (below : p ≠ []) :
  f.node? p = (f.number? p).bind (f.nodes[·]?)
  := by
  cases p with
  | nil => contradiction
  | cons name p => rfl

theorem number?_drop (p q : Path) :
  (f.drop p).number? q = if q = p then none else f.number? q
  := by
  unfold number? drop
  dsimp only
  induction f.entries with
  | nil => simp
  | cons e es ih =>
      rw [List.filter_cons, List.lookup_cons]
      by_cases dropped : e.1 = p
      · rw [if_neg (by simpa using dropped), ih]
        by_cases same : q = p
        · rw [if_pos same, if_pos same]
        · rw [if_neg same, if_neg same, beq_false_of_ne (dropped ▸ same)]
      · rw [if_pos (by simpa using dropped), List.lookup_cons, ih]
        by_cases same : q = p
        · rw [if_pos same, if_pos same, beq_false_of_ne (same ▸ Ne.symm dropped)]
        · rw [if_neg same, if_neg same]

theorem number?_put (p q : Path) (n : Node) :
  (f.put p n).number? q = if q = p then some f.nodes.size else f.number? q
  := by
  have first : (f.put p n).number? q
      = if q == p then some f.nodes.size else (f.drop p).number? q := by
    unfold number? put drop
    dsimp only
    rw [List.lookup_cons]
    cases q == p <;> rfl
  rw [first, number?_drop]
  by_cases same : q = p <;> simp [same]

theorem mem_of_number? (leads : f.number? p = some number) :
  (p, number) ∈ f.entries
  := by
  obtain ⟨before, after, split, -⟩ := List.lookup_eq_some_iff.mp leads
  rw [split]
  simp

/-! ### Changes at one place -/

/-- What is at a place is replaced, and what is elsewhere stays. -/
structure Becomes (f : Files) (p : Path) (n : Option Node) (g : Files) : Prop where
  there : g.node? p = n
  elsewhere : ∀ q, q ≠ p → g.node? q = f.node? q

theorem becomes_self (p : Path) :
  f.Becomes p (f.node? p) f
  := ⟨rfl, fun _ _ => rfl⟩

theorem Becomes.trans {h : Files} {n₁ n₂ : Option Node} (first : f.Becomes p n₁ g)
    (second : g.Becomes p n₂ h) :
  f.Becomes p n₂ h
  := by
  refine ⟨second.there, ?_⟩
  intro q away
  rw [second.elsewhere q away, first.elsewhere q away]

theorem becomes_drop (below : p ≠ []) :
  f.Becomes p none (f.drop p)
  := by
  constructor
  · rw [node?_of_ne_nil below, number?_drop, if_pos rfl]
    rfl
  · intro q away
    by_cases root : q = []
    · rw [root]
      rfl
    · rw [node?_of_ne_nil root, node?_of_ne_nil root, number?_drop, if_neg away]
      rfl

/-- A new node is at its place, and at no other since no entry leads to it. -/
theorem Sound.becomes_put (sound : f.Sound) (below : p ≠ []) (n : Node) :
  f.Becomes p (some n) (f.put p n)
  := by
  constructor
  · rw [node?_of_ne_nil below, number?_put, if_pos rfl]
    simp [Files.put]
  · intro q away
    by_cases root : q = []
    · rw [root]
      rfl
    · rw [node?_of_ne_nil root, node?_of_ne_nil root, number?_put, if_neg away]
      apply Option.bind_congr
      intro number leads
      have small : number < f.nodes.size := sound.numbered _ (mem_of_number? leads)
      rw [Files.put, Array.getElem?_push_lt small, Array.getElem?_eq_getElem small]

/-- A node that is replaced is at one place only. -/
theorem Sound.becomes_setNode (sound : f.Sound) (below : p ≠ [])
    (leads : f.number? p = some number) (n : Node) :
  f.Becomes p (some n) (f.setNode number n)
  := by
  constructor
  · have small : number < f.nodes.size := sound.numbered _ (mem_of_number? leads)
    rw [node?_of_ne_nil below, show (f.setNode number n).number? p = f.number? p from rfl, leads]
    simp [Files.setNode, small]
  · intro q away
    by_cases root : q = []
    · rw [root]
      rfl
    · rw [node?_of_ne_nil root, node?_of_ne_nil root]
      apply Option.bind_congr
      intro number' leads'
      have other : number' ≠ number := by
        rintro rfl
        apply away
        exact congrArg Prod.fst (List.inj_on_of_nodup_map sound.unshared (mem_of_number? leads')
          (mem_of_number? leads) rfl)
      rw [Files.setNode, Array.getElem?_setIfInBounds_ne (Ne.symm other)]

/-- An operation refuses or changes what is at a place, by what has been there. -/
def ActsAt (f : Files) (p : Path) (act : Except Fault (Option Node)) (r : Except Fault Files) :
    Prop :=
  match act with
  | .error fault => r = .error fault
  | .ok n => ∃ g, r = .ok g ∧ f.Becomes p n g

/-- What is at a place once a file was written there. -/
def written (mode : Nat) (content : Octets) : Option Node → Except Fault (Option Node)
  | some .directory => .error .isDirectory
  | some (.program _) => .error .accessDenied
  | some (.device d) => .ok (some (.device d))
  | some (.file mode _) => .ok (some (.file mode content))
  | none => .ok (some (.file mode content))

/-- What is at a place once it was removed. -/
def removed : Option Node → Except Fault (Option Node)
  | some .directory => .error .isDirectory
  | some _ => .ok none
  | none => .error .notFound

/-- The root is a directory. -/
theorem ne_nil_of_node? {n : Option Node} (there : f.node? p = n) (other : n ≠ some .directory) :
  p ≠ []
  := by
  rintro rfl
  exact other there.symm

/-- To write does at the place of a path what writing does, if the place is one. -/
theorem Sound.write_actsAt (sound : f.Sound) (located : f.locate here path = .ok p)
    (inside : f.node? p = none → f.isDirectoryAt p.dropLast) :
  f.ActsAt p (written mode content (f.node? p)) (f.write here path content mode)
  := by
  unfold Files.write Files.openForWriting
  simp only [located, bind, Except.bind]
  cases there : f.node? p with
  | none =>
      have below : p ≠ [] := ne_nil_of_node? there (by simp)
      have made := sound.becomes_put below (.file mode [])
      have leads : (f.put p (.file mode [])).number? p = some f.nodes.size := by
        rw [number?_put, if_pos rfl]
      have new : (f.put p (.file mode [])).nodes[f.nodes.size]? = some (.file mode []) := by
        simp [Files.put]
      simp only [if_pos (inside there), new]
      exact ⟨_, rfl, made.trans ((sound.put p _).becomes_setNode below leads _)⟩
  | some n =>
      cases n with
      | directory => rfl
      | program name => rfl
      | device d => exact ⟨f, rfl, there ▸ becomes_self p⟩
      | file mode old =>
          have below : p ≠ [] := ne_nil_of_node? there (by simp)
          have held := there
          rw [node?_of_ne_nil below] at held
          obtain ⟨number, leads, -⟩ := Option.bind_eq_some_iff.mp held
          have small : number < f.nodes.size := sound.numbered _ (mem_of_number? leads)
          have emptied := sound.becomes_setNode below leads (.file mode [])
          have new : (f.setNode number (.file mode [])).nodes[number]? = some (.file mode []) := by
            simp [Files.setNode, small]
          simp only [leads, if_true, new]
          exact ⟨_, rfl, emptied.trans ((sound.setNode number _).becomes_setNode below leads _)⟩

theorem remove_actsAt (located : f.locate here path = .ok p) :
  f.ActsAt p (removed (f.node? p)) (f.remove here path)
  := by
  unfold remove find
  simp only [located, bind, Except.bind]
  cases there : f.node? p with
  | none => rfl
  | some n =>
      cases n with
      | directory => rfl
      | program name => exact ⟨_, rfl, becomes_drop (ne_nil_of_node? there nofun)⟩
      | device d => exact ⟨_, rfl, becomes_drop (ne_nil_of_node? there nofun)⟩
      | file mode content => exact ⟨_, rfl, becomes_drop (ne_nil_of_node? there nofun)⟩

theorem write_located (done : f.write here path content mode = .ok g) :
  ∃ p, f.locate here path = .ok p ∧ (f.node? p = none → f.isDirectoryAt p.dropLast)
  := by
  obtain ⟨⟨f', target⟩, opened, -⟩ := bind_eq_ok_iff.mp done
  obtain ⟨p, located, opened⟩ := bind_eq_ok_iff.mp opened
  use p, located
  intro there
  simp only [there] at opened
  split at opened
  case isTrue inside => exact inside
  case isFalse => split at opened <;> cases opened

/-- What is found at a path hangs on what is at its place. -/
theorem find_congr (locates : f.locate here path = g.locate here path)
    (same : f.node? (place here path) = g.node? (place here path)) :
  f.find here path = g.find here path
  := by
  unfold find
  rw [← locates]
  cases located : f.locate here path with
  | error fault => rfl
  | ok p =>
      obtain rfl := locate_eq_place located
      simp only [bind, Except.bind]
      rw [same]

/-! ### Making directories -/

/-- What was there stays, and all that is new are directories. -/
structure Grows (f g : Files) : Prop where
  keeps : ∀ p n, f.node? p = some n → g.node? p = some n
  adds : ∀ p n, g.node? p = some n → f.node? p = some n ∨ n = .directory

namespace Grows

@[refl]
theorem refl (f : Files) :
  f.Grows f
  := ⟨fun _ _ there => there, fun _ _ there => .inl there⟩

theorem trans {h : Files} (first : f.Grows g) (second : g.Grows h) :
  f.Grows h
  := by
  constructor
  · intro p n there
    apply second.keeps p n (first.keeps p n there)
  · intro p n there
    rcases second.adds p n there with there | isDirectory
    · apply first.adds p n there
    · exact .inr isDirectory

end Grows

theorem steps_append (s t : Octets) :
  steps (s ++ '/' :: t) = steps s ++ steps t
  := by
  unfold steps
  rw [Text.pieces_append, List.filter_append]

theorem steps_append_replicate (s : Octets) (k : Nat) :
  steps (s ++ List.replicate k '/') = steps s
  := by
  induction k generalizing s with
  | zero => simp
  | succ k ih =>
      have none : steps [] = [] := rfl
      rw [List.replicate_succ, List.append_cons, ih, steps_append, none, List.append_nil]

/-- A path is one that does not end with a slash, with slashes after it, or nothing but slashes. -/
theorem withoutEndSlashes_cases (path : Octets) :
  ∃ k, (path = List.replicate k '/' ∧ withoutEndSlashes path = path.take 1)
    ∨ (path = withoutEndSlashes path ++ List.replicate k '/' ∧ withoutEndSlashes path ≠ []
      ∧ Text.endsWith (withoutEndSlashes path) ['/'] = false)
  := by
  have slashes : (path.reverse.takeWhile (· = '/')).reverse
      = List.replicate (path.reverse.takeWhile (· = '/')).length '/' := by
    rw [List.eq_replicate_iff]
    simp only [List.length_reverse, List.mem_reverse, true_and]
    intro c taken
    simpa using List.mem_takeWhile_imp taken
  have parts : path = (path.reverse.dropWhile (· = '/')).reverse
      ++ List.replicate (path.reverse.takeWhile (· = '/')).length '/' := by
    rw [← slashes, ← List.reverse_append, List.takeWhile_append_dropWhile, List.reverse_reverse]
  use (path.reverse.takeWhile (· = '/')).length
  unfold withoutEndSlashes
  split
  case h_1 nothing =>
    left
    rw [nothing] at parts
    exact ⟨parts, rfl⟩
  case h_2 some =>
    right
    refine ⟨parts, some, ?_⟩
    rw [Bool.eq_false_iff, Ne, endsWith_slash_iff]
    rintro ⟨s, ended⟩
    have begins : path.reverse.dropWhile (· = '/') = '/' :: s.reverse := by
      rw [← List.reverse_reverse (path.reverse.dropWhile (· = '/')), ended]
      simp
    have isOther := List.head_dropWhile_not (· = '/') (begins ▸ List.cons_ne_nil _ _)
    simp [begins] at isOther

/-- Slashes at the end lead nowhere else. -/
theorem names_withoutEndSlashes (path : Octets) :
  names (withoutEndSlashes path) = steps path
  := by
  obtain ⟨k, ⟨slashes, same⟩ | ⟨parts, -, unended⟩⟩ := withoutEndSlashes_cases path
  · rw [same, slashes]
    cases k with
    | zero => rfl
    | succ k =>
        rw [show List.replicate (k + 1) '/' = [] ++ List.replicate (k + 1) '/' from rfl,
          steps_append_replicate]
        rfl
  · have steps : steps (withoutEndSlashes path) = steps path := by
      conv_rhs => rw [parts, steps_append_replicate]
    rw [← steps]
    simp [names, unended, Files.steps]

theorem origin_withoutEndSlashes (here : Path) (path : Octets) :
  origin here (withoutEndSlashes path) = origin here path
  := by
  obtain ⟨k, ⟨slashes, same⟩ | ⟨parts, some, -⟩⟩ := withoutEndSlashes_cases path
  · rw [same, slashes]
    cases k <;> rfl
  · obtain ⟨c, s, begins⟩ := List.exists_cons_of_ne_nil some
    conv_rhs => rw [parts]
    rw [begins]
    rfl

/-- A directory at a path can be opened. -/
theorem opens_of_find (found : f.find here path = .ok (p, .directory)) :
  f.Opens here path
  := by
  obtain ⟨q, located, there⟩ := bind_eq_ok_iff.mp found
  split at there
  case h_2 => cases there
  case h_1 n held =>
    obtain ⟨rfl, rfl⟩ := Prod.mk.inj (Except.ok.inj there)
    obtain ⟨-, clean, short, walked⟩ := locate_eq_ok_iff.mp located
    have walk : (steps path).foldlM f.enter (origin here path) = .ok q := by
      have whole : names path = if Text.endsWith path ['/'] && !(steps path).isEmpty
          then steps path ++ [['.']] else steps path := rfl
      rw [whole] at walked
      split at walked
      · rw [List.foldlM_append] at walked
        obtain ⟨r, walk, enters⟩ := bind_eq_ok_iff.mp walked
        obtain ⟨r', entered, last⟩ := bind_eq_ok_iff.mp enters
        obtain rfl := Except.ok.inj last
        rw [walk, ← (onward_of_enter entered).2]
        rfl
      · exact walked
    have same : base here path = q := foldl_of_walk walk
    exact ⟨same ▸ walk, same ▸ held, clean, short⟩

/-- A directory that can be opened is found at its path. -/
theorem Opens.find (opens : f.Opens here path) (some : path ≠ []) :
  f.find here path = .ok (base here path, .directory)
  := by
  have walked : (names path).foldlM f.enter (origin here path) = .ok (base here path) := by
    have whole : names path = if Text.endsWith path ['/'] && !(steps path).isEmpty
        then steps path ++ [['.']] else steps path := rfl
    rw [whole]
    split
    · rw [List.foldlM_append]
      apply bind_eq_ok_iff.mpr
      use base here path, opens.walk
      simp [enter, opens.isDirectory, bind, Except.bind, pure, Except.pure]
    · exact opens.walk
  have located := locate_eq_ok_iff.mpr ⟨some, opens.clean, opens.short, walked⟩
  apply bind_eq_ok_iff.mpr
  use base here path, located
  rw [opens.isDirectory]

/-- A directory is made: it can be opened, and what was there stays. -/
theorem makeDirectory_made (sound : f.Sound) (made : f.makeDirectory here path = .ok g) :
  f.Grows g ∧ g.Opens here path
  := by
  unfold makeDirectory at made
  split at made
  case isTrue => cases made
  case isFalse short =>
    obtain ⟨p, located, made⟩ := bind_eq_ok_iff.mp made
    split at made
    case isTrue => cases made
    case isFalse free =>
      split at made
      case isTrue => cases made
      case isFalse inside =>
        obtain rfl := Except.ok.inj made
        have free : f.node? p = none := by simpa using free
        have becomes := sound.becomes_put (ne_nil_of_node? free nofun) .directory
        have grows : f.Grows (f.put p .directory) := by
          constructor
          · intro q n there
            rwa [becomes.elsewhere]
            rintro rfl
            rw [free] at there
            cases there
          · intro q n there
            by_cases same : q = p
            · rw [same, becomes.there] at there
              exact .inr (Option.some.inj there).symm
            · rw [becomes.elsewhere q same] at there
              exact .inl there
        obtain ⟨some, clean, -, walked⟩ := locate_eq_ok_iff.mp located
        rw [names_withoutEndSlashes, origin_withoutEndSlashes] at walked
        have walk := walk_mono walked fun q => grows.keeps q .directory
        have same : base here path = p := foldl_of_walk walk
        have clean : '\x00' ∉ path := by
          obtain ⟨k, ⟨slashes, -⟩ | ⟨parts, -⟩⟩ := withoutEndSlashes_cases path
          · rw [slashes]
            simp
          · rw [parts]
            simp [clean]
        refine ⟨grows, same ▸ walk, same ▸ becomes.there, clean, ?_⟩
        simpa [clean] using short

/-- Directories are made: what was there stays, and the last one can be opened. An empty path asks
for nothing. -/
theorem makeDirectories_made {depth : Nat} (sound : f.Sound)
    (made : makeDirectories here depth path f = .ok g) :
  g.Sound ∧ f.Grows g ∧ (path = [] ∧ g = f ∨ g.Opens here path)
  := by
  induction depth generalizing path f g with
  | zero => cases made
  | succ depth ih =>
      unfold makeDirectories at made
      split at made
      case isTrue empty =>
        cases made
        exact ⟨sound, .refl _, .inl ⟨List.isEmpty_iff.mp empty, rfl⟩⟩
      case isFalse some =>
        have settled {f : Files} {p : Path} (sound : f.Sound)
            (found : f.find here path = .ok (p, .directory)) :
            f.Sound ∧ f.Grows f ∧ (path = [] ∧ f = f ∨ f.Opens here path) :=
          ⟨sound, .refl _, .inr (opens_of_find found)⟩
        have last {f g : Files} (sound : f.Sound) (made : f.makeDirectory here path = .ok g) :
            g.Sound ∧ f.Grows g ∧ (path = [] ∧ g = f ∨ g.Opens here path) := by
          obtain ⟨grows, opens⟩ := makeDirectory_made sound made
          exact ⟨sound.makeDirectory made, grows, .inr opens⟩
        dsimp only at made
        split at made
        case h_1 f' made' =>
          cases made
          exact last sound made'
        case h_2 missing =>
          split at made
          case h_1 => cases made
          case h_2 up lies =>
            obtain ⟨f', above, made⟩ := bind_eq_ok_iff.mp made
            obtain ⟨sound', grows, -⟩ := ih sound above
            have done : g.Sound ∧ f'.Grows g ∧ (path = [] ∧ g = f' ∨ g.Opens here path) := by
              split at made
              · cases made
                rename_i made'
                exact last sound' made'
              · split at made <;> cases made
                rename_i found
                exact settled sound' found
            obtain ⟨sound'', grows', ⟨empty, -⟩ | opens⟩ := done
            · simp [empty] at some
            · exact ⟨sound'', grows.trans grows', .inr opens⟩
        case h_3 =>
          split at made <;> cases made
          rename_i found
          exact settled sound found

theorem makeAll_made (sound : f.Sound) (made : f.makeAll here path = .ok g) :
  g.Sound ∧ f.Grows g ∧ (path = [] ∧ g = f ∨ g.Opens here path)
  := makeDirectories_made sound made

/-- Where a directory can be opened, there is nothing to make. -/
theorem Opens.makeAll (opens : f.Opens here path) :
  f.makeAll here path = .ok f
  := by
  unfold Files.makeAll makeDirectories
  split
  case isTrue => rfl
  case isFalse some =>
    have part : withoutEndSlashes path <+: path ∧ withoutEndSlashes path ≠ [] := by
      obtain ⟨k, ⟨slashes, same⟩ | ⟨parts, some, -⟩⟩ := withoutEndSlashes_cases path
      · rw [same]
        exact ⟨List.take_prefix 1 path, by simpa using some⟩
      · exact ⟨⟨_, parts.symm⟩, some⟩
    have located : f.locate here (withoutEndSlashes path) = .ok (base here path) := by
      rw [locate_eq_ok_iff, names_withoutEndSlashes, origin_withoutEndSlashes]
      refine ⟨part.2, fun null => opens.clean (part.1.subset null), ?_, opens.walk⟩
      exact Nat.lt_of_le_of_lt part.1.length_le opens.short
    have refused : f.makeDirectory here path = .error .exists := by
      simp [makeDirectory, Nat.not_le.mpr opens.short, located, opens.isDirectory, bind,
        Except.bind]
    have found : f.find here path = _ := opens.find (by simpa using some)
    simp only [refused, found]

/-! ### Regular files -/

/-- The mode and the content of the regular file at a place. -/
def regular? (f : Files) (p : Path) : Option (Nat × Octets) :=
  match f.node? p with
  | some (.file mode content) => some (mode, content)
  | _ => none

/-- The mode and the content of the regular file to which a path leads. -/
def regularAt? (f : Files) (here : Path) (path : Text) : Option (Nat × Octets) :=
  match f.find here (Octets.ofText path) with
  | .ok (_, .file mode content) => some (mode, content)
  | _ => none

/-- Regular files are as they were, but for those at the places of some paths. -/
def Spares (here : Path) (paths : List Text) (f g : Files) : Prop :=
  ∀ p, (∀ path ∈ paths, place here (Octets.ofText path) ≠ p) → g.regular? p = f.regular? p

/-- The files after a change, or as they were if it was refused. -/
def settled (f : Files) (r : Except Fault Files) : Files :=
  r.toOption.getD f

/-- What is refused leaves sound files. -/
theorem Sound.settled {r : Except Fault Files} (sound : f.Sound)
    (changed : ∀ g, r = .ok g → g.Sound) :
  (f.settled r).Sound
  := by
  cases r with
  | error fault => exact sound
  | ok g => apply changed g rfl

namespace Spares

variable {paths paths' : List Text}

@[refl]
theorem refl (f : Files) :
  Spares here paths f f
  := fun _ _ => rfl

theorem trans {h : Files} (first : Spares here paths f g) (second : Spares here paths g h) :
  Spares here paths f h
  := by
  intro p away
  rw [second p away, first p away]

theorem mono (spares : Spares here paths f g) (part : paths ⊆ paths') :
  Spares here paths' f g
  := by
  intro p away
  apply spares p
  intro path stands
  apply away path (part stands)

end Spares

theorem mem_entries_of_regular? (held : (f.regular? p).isSome) :
  ∃ e ∈ f.entries, e.1 = p
  := by
  unfold regular? at held
  split at held
  case h_1 mode content there =>
    rw [node?_of_ne_nil (ne_nil_of_node? there nofun)] at there
    obtain ⟨number, leads, -⟩ := Option.bind_eq_some_iff.mp there
    exact ⟨_, mem_of_number? leads, rfl⟩
  case h_2 => cases held

/-- Where no entry leads there is no file to be changed. -/
theorem spares_iff_entries {paths : List Text} :
  Spares here paths f g ↔ ∀ e ∈ f.entries ++ g.entries,
    (∀ path ∈ paths, place here (Octets.ofText path) ≠ e.1) → g.regular? e.1 = f.regular? e.1
  := by
  constructor
  · intro spares e _
    apply spares
  · intro same p away
    by_cases led : ∃ e ∈ f.entries ++ g.entries, e.1 = p
    · obtain ⟨e, stands, rfl⟩ := led
      apply same e stands away
    · have nothing (h : Files) (part : h.entries ⊆ f.entries ++ g.entries) : h.regular? p = none := by
        by_contra held
        obtain ⟨e, stands, same⟩ :=
          mem_entries_of_regular? (Option.isSome_iff_ne_none.mpr held)
        exact led ⟨e, part stands, same⟩
      rw [nothing f (List.subset_append_left _ _), nothing g (List.subset_append_right _ _)]

instance {paths : List Text} : Decidable (Spares here paths f g) :=
  decidable_of_iff _ spares_iff_entries.symm

variable {path path' : Text}

theorem Grows.spares (grows : f.Grows g) :
  Spares here [] f g
  := by
  intro p _
  unfold regular?
  cases there : f.node? p with
  | some n => rw [grows.keeps p n there]
  | none =>
      cases there' : g.node? p with
      | none => rfl
      | some n =>
          rcases grows.adds p n there' with held | isDirectory
          · rw [there] at held
            cases held
          · rw [isDirectory]

theorem Becomes.spares {n : Option Node} (becomes : f.Becomes (place here (Octets.ofText path)) n g) :
  Spares here [path] f g
  := by
  intro p away
  have other : p ≠ place here (Octets.ofText path) := Ne.symm (away path List.mem_cons_self)
  unfold regular?
  rw [becomes.elsewhere p other]

theorem Sound.makeAll_spares (sound : f.Sound) (here : Path) (path : Octets) :
  (f.settled (f.makeAll here path)).Sound ∧ Spares here [] f (f.settled (f.makeAll here path))
  := by
  cases made : f.makeAll here path with
  | error fault => exact ⟨sound, .refl f⟩
  | ok g =>
      obtain ⟨sound', grows, -⟩ := makeAll_made sound made
      exact ⟨sound', grows.spares⟩

theorem Sound.write_spares (sound : f.Sound) (here : Path) (path : Text) (content : Octets)
    (mode : Nat) :
  (f.settled (f.write here (Octets.ofText path) content mode)).Sound
    ∧ Spares here [path] f (f.settled (f.write here (Octets.ofText path) content mode))
  := by
  cases done : f.write here (Octets.ofText path) content mode with
  | error fault => exact ⟨sound, .refl f⟩
  | ok g =>
      use sound.write done
      obtain ⟨p, located, inside⟩ := write_located done
      obtain rfl := locate_eq_place located
      have acts : f.ActsAt _ (written mode content _) _ := sound.write_actsAt located inside
      rw [done] at acts
      unfold ActsAt at acts
      split at acts
      · cases acts
      · obtain ⟨g', same, becomes⟩ := acts
        obtain rfl := Except.ok.inj same
        exact becomes.spares

/-- A path leads nowhere new when files are gone. -/
theorem find_mono {path : Octets} (less : ∀ q n, g.node? q = some n → f.node? q = some n)
    (found : g.find here path = .ok (p, n)) :
  f.find here path = .ok (p, n)
  := by
  obtain ⟨q, located, there⟩ := bind_eq_ok_iff.mp found
  obtain ⟨some, clean, short, walked⟩ := locate_eq_ok_iff.mp located
  have located' : f.locate here path = .ok q :=
    locate_eq_ok_iff.mpr ⟨some, clean, short, walk_mono walked fun q => less q .directory⟩
  apply bind_eq_ok_iff.mpr
  use q, located'
  split at there
  case h_1 m held =>
    rw [less q m held]
    exact there
  case h_2 => cases there

/-- Where a file is removed there is nothing left. -/
theorem remove_becomes {path : Octets} (done : f.remove here path = .ok g) :
  f.Becomes (place here path) none g
  := by
  obtain ⟨⟨p, n⟩, found, -⟩ := bind_eq_ok_iff.mp done
  obtain ⟨p', located, -⟩ := bind_eq_ok_iff.mp found
  obtain rfl := locate_eq_place located
  have acts := remove_actsAt located
  rw [done] at acts
  unfold ActsAt removed at acts
  split at acts
  · cases acts
  · rename_i n' act
    obtain ⟨g', same, becomes⟩ := acts
    obtain rfl := Except.ok.inj same
    split at act <;> cases act
    exact becomes

theorem remove_spares (path : Text) :
  Spares here [path] f (f.settled (f.remove here (Octets.ofText path)))
  := by
  cases done : f.remove here (Octets.ofText path) with
  | error fault => exact .refl f
  | ok g => exact (remove_becomes done).spares

theorem Sound.settled_remove (sound : f.Sound) (path : Octets) :
  (f.settled (f.remove here path)).Sound
  := by
  apply sound.settled
  intro g done
  exact sound.remove done

theorem Becomes.less (becomes : f.Becomes p none g) (q : Path) (n : Node)
    (there : g.node? q = some n) :
  f.node? q = some n
  := by
  rw [← becomes.elsewhere q, there]
  rintro rfl
  rw [becomes.there] at there
  cases there

/-- A path to which nothing regular belongs stays so when files are removed. -/
theorem regularAt?_remove_of_none (none : f.regularAt? here path = none) (path' : Text) :
  (f.settled (f.remove here (Octets.ofText path'))).regularAt? here path = .none
  := by
  cases done : f.remove here (Octets.ofText path') with
  | error fault => exact none
  | ok g =>
      change g.regularAt? here path = .none
      unfold regularAt? at none ⊢
      split
      case h_1 p mode content found =>
        rw [find_mono (remove_becomes done).less found] at none
        cases none
      case h_2 => rfl

/-- No regular file belongs to a path that was removed. -/
theorem regularAt?_remove (path : Text) :
  (f.settled (f.remove here (Octets.ofText path))).regularAt? here path = none
  := by
  cases done : f.remove here (Octets.ofText path) with
  | error fault =>
      change f.regularAt? here path = none
      unfold regularAt?
      split
      case h_1 p mode content found =>
        simp [remove, found, bind, Except.bind] at done
      case h_2 => rfl
  | ok g =>
      change g.regularAt? here path = none
      unfold regularAt?
      split
      case h_1 p mode content found =>
        obtain ⟨q, located, there⟩ := bind_eq_ok_iff.mp found
        obtain rfl := locate_eq_place located
        rw [(remove_becomes done).there] at there
        cases there
      case h_2 => rfl

end Files

end Host

end NotebookEngine
