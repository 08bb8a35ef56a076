import Mathlib.Data.List.Basic
import Mathlib.Tactic.Common
import NotebookEngine.Host.Files

/-!
# Where paths lead

A path that can be followed leads to a place that hangs on its names alone (`Files.place`,
`Files.locate_eq_place`). A path to a name within a directory leads through that directory
(`Files.opens_of_locate`), to a place that tells the name (`Files.place_within`).
-/

namespace NotebookEngine

namespace Host

/-- An answer that is asked for in two steps is given when both are answered. -/
theorem bind_eq_ok_iff {α β : Type} {x : Except Fault α} {k : α → Except Fault β} {b : β} :
  (x >>= k) = .ok b ↔ ∃ a, x = .ok a ∧ k a = .ok b
  := by
  cases x with
  | error fault => simp [bind, Except.bind]
  | ok a => simp [bind, Except.bind]

/-! ### The octets of a text -/

namespace Octets

theorem ofText_append (s t : Text) :
  ofText (s ++ t) = ofText s ++ ofText t
  := by
  simp [ofText, ofBytes, Utf8.encode]

/-- The number of the character of an octet is the octet. -/
theorem toNat_character (b : UInt8) :
  (Char.ofNat b.toNat).toNat = b.toNat
  := by
  have valid : b.toNat.isValidChar := by
    have := b.toNat_lt
    simp only [Nat.isValidChar]
    omega
  rw [Char.ofNat, dif_pos valid]
  rfl

/-- Different octets are different characters. -/
theorem ofBytes_injective :
  Function.Injective ofBytes
  := by
  rw [show ofBytes = List.map fun b => Char.ofNat b.toNat from rfl, List.map_injective_iff]
  intro b c same
  apply UInt8.toNat_inj.mp
  rw [← toNat_character b, ← toNat_character c]
  exact congrArg Char.toNat same

/-- Different texts are different octets. -/
theorem ofText_injective :
  Function.Injective ofText
  := by
  intro s t same
  have encoded : Utf8.encode s = Utf8.encode t := ofBytes_injective same
  apply String.ofList_injective
  rw [← String.toByteArray_inj, String.toByteArray_ofList, String.toByteArray_ofList]
  exact congrArg List.toByteArray encoded

/-- Only a slash is written with the octet of a slash. -/
theorem slash_notMem_ofText {s : Text} (free : '/' ∉ s) :
  '/' ∉ ofText s
  := by
  simp only [ofText, ofBytes, Utf8.encode, List.mem_map, List.mem_flatMap]
  rintro ⟨b, ⟨c, stands, octet⟩, slash⟩
  apply free
  have value : b.toNat = 47 := by
    rw [← toNat_character b, slash]
    rfl
  have number : c.toNat = 47 := by
    unfold String.utf8EncodeChar at octet
    dsimp only at octet
    have whole : c.val.toNat = c.toNat := rfl
    rw [whole] at octet
    repeat' split at octet
    all_goals
      simp only [List.mem_cons, List.not_mem_nil, or_false] at octet
      rcases octet with rfl | rfl | rfl | rfl <;> (simp only [UInt8.toNat_ofNat'] at value; omega)
  have same : c = '/' := by
    rw [← Char.ofNat_toNat c, number]
  exact same ▸ stands

end Octets

namespace Files

variable {f g : Files} {here p q d : Path} {path directory name : Octets}

/-! ### Places -/

/-- The place to which a name leads, whatever is there. -/
def onward (p : Path) (name : Octets) : Path :=
  if name = ['.'] then p else if name = ['.', '.'] then p.dropLast else p ++ [name]

/-- Where a path begins. -/
def origin (here : Path) (path : Octets) : Path :=
  if Text.startsWith path ['/'] then [] else here

/-- The place of a path, whatever is there. -/
def place (here : Path) (path : Octets) : Path :=
  (names path).foldl onward (origin here path)

/-- A name is entered in a directory. -/
theorem onward_of_enter (entered : f.enter p name = .ok q) :
  f.node? p = some .directory ∧ onward p name = q
  := by
  unfold enter at entered
  split at entered
  case h_1 => cases entered
  case h_2 isDirectory =>
    use isDirectory
    unfold onward
    split at entered
    case isTrue own => simpa [own] using entered
    case isFalse other =>
      split at entered
      case isTrue up => simpa [up] using entered
      case isFalse plain =>
        split at entered
        · cases entered
        · simpa [other, plain] using entered
  case h_3 => cases entered

/-- Names that can be followed lead to a place that hangs on them alone. -/
theorem foldl_of_walk {ns : List Octets} (walked : ns.foldlM f.enter p = .ok q) :
  ns.foldl onward p = q
  := by
  induction ns generalizing p with
  | nil => simpa [pure, Except.pure] using walked
  | cons n ns ih =>
      rw [List.foldlM_cons] at walked
      obtain ⟨r, entered, walked⟩ := bind_eq_ok_iff.mp walked
      rw [List.foldl_cons, (onward_of_enter entered).2]
      apply ih walked

/-- A path that can be followed is some text without null, not too long, and its names lead to
its place. -/
theorem locate_eq_ok_iff :
  f.locate here path = .ok p ↔ path ≠ [] ∧ '\x00' ∉ path ∧ path.length < pathLimit
    ∧ (names path).foldlM f.enter (origin here path) = .ok p
  := by
  unfold locate origin
  split
  case isTrue empty => simp [List.isEmpty_iff.mp empty]
  case isFalse some =>
    split
    case isTrue null => simp [List.contains_iff_mem.mp null]
    case isFalse clean =>
      split
      case isTrue long => simp [Nat.not_lt.mpr long]
      case isFalse short =>
        rw [List.isEmpty_iff] at some
        rw [List.contains_iff_mem] at clean
        simp [some, clean, Nat.not_le.mp short]

/-- The place of a path hangs on its names alone. -/
theorem locate_eq_place (located : f.locate here path = .ok p) :
  place here path = p
  := by
  obtain ⟨-, -, -, walked⟩ := locate_eq_ok_iff.mp located
  apply foldl_of_walk walked

/-- Names can still be followed when all directories are still there. -/
theorem walk_mono {ns : List Octets} (walked : ns.foldlM f.enter p = .ok q)
    (stays : ∀ q, f.node? q = some .directory → g.node? q = some .directory) :
  ns.foldlM g.enter p = .ok q
  := by
  induction ns generalizing p with
  | nil => exact walked
  | cons n ns ih =>
      rw [List.foldlM_cons] at walked ⊢
      obtain ⟨r, entered, walked⟩ := bind_eq_ok_iff.mp walked
      have isDirectory := (onward_of_enter entered).1
      have entered' : g.enter p n = .ok r := by
        simp only [enter, isDirectory, stays p isDirectory] at entered ⊢
        exact entered
      exact bind_eq_ok_iff.mpr ⟨r, entered', ih walked⟩

/-! ### Names within a directory -/

theorem endsWith_slash_iff :
  Text.endsWith path ['/'] = true ↔ ∃ s, path = s ++ ['/']
  := by
  rw [Text.endsWith, List.isPrefixOf_iff_prefix]
  constructor
  · rintro ⟨s, same⟩
    use s.reverse
    rw [← List.reverse_reverse path, ← same]
    simp
  · rintro ⟨s, rfl⟩
    use s.reverse
    simp

/-- The name is one for a file. -/
structure IsName (name : Octets) : Prop where
  some : name ≠ []
  whole : '/' ∉ name
  own : name ≠ ['.']
  up : name ≠ ['.', '.']

/-- A path within a directory. -/
def within (directory name : Octets) : Octets :=
  if directory.isEmpty || Text.endsWith directory ['/'] then directory ++ name
  else directory ++ '/' :: name

/-- The names in the path of a directory. -/
def steps (directory : Octets) : List Octets :=
  (Text.pieces '/' directory).filter fun n => !n.isEmpty

/-- The place of a directory, whatever is there. -/
def base (here : Path) (directory : Octets) : Path :=
  (steps directory).foldl onward (origin here directory)

/-- The path of a directory can be followed, and leads to a directory. -/
structure Opens (f : Files) (here : Path) (directory : Octets) : Prop where
  walk : (steps directory).foldlM f.enter (origin here directory) = .ok (base here directory)
  isDirectory : f.node? (base here directory) = Option.some .directory
  clean : '\x00' ∉ directory
  short : directory.length < pathLimit

theorem IsName.not_endsWith (isName : IsName name) (s : Octets) :
  Text.endsWith (s ++ name) ['/'] = false
  := by
  rw [Bool.eq_false_iff, Ne, endsWith_slash_iff]
  rintro ⟨t, same⟩
  obtain ⟨n, c, rfl⟩ := (List.eq_nil_or_concat name).resolve_left isName.some
  rw [List.concat_eq_append, ← List.append_assoc] at same
  obtain ⟨-, slash⟩ := List.append_inj' same rfl
  apply isName.whole
  rw [List.concat_eq_append, slash]
  simp

/-- The last name in a path within a directory is the one in the directory. -/
theorem names_within (isName : IsName name) :
  names (within directory name) = steps directory ++ [name]
  := by
  have alone : (Text.pieces '/' name).filter (fun n => !n.isEmpty) = [name] := by
    rw [Text.pieces_of_notMem isName.whole]
    simp [isName.some]
  have pieces : (Text.pieces '/' (within directory name)).filter (fun n => !n.isEmpty)
      = steps directory ++ [name] := by
    unfold within steps
    split
    case isTrue ended =>
      rw [Bool.or_eq_true, List.isEmpty_iff, endsWith_slash_iff] at ended
      rcases ended with rfl | ⟨s, rfl⟩
      · rw [List.nil_append, alone]
        rfl
      · rw [List.append_assoc, List.singleton_append, Text.pieces_append, Text.pieces_append,
          List.filter_append, List.filter_append, alone]
        simp
    case isFalse => rw [Text.pieces_append, List.filter_append, alone]
  have unended : Text.endsWith (within directory name) ['/'] = false := by
    unfold within
    split
    · apply isName.not_endsWith
    · rw [List.append_cons]
      apply isName.not_endsWith
  simp [names, pieces, unended]

theorem origin_within (isName : IsName name) :
  origin here (within directory name) = origin here directory
  := by
  have free : ¬['/'] <+: name := by
    rintro ⟨s, rfl⟩
    apply isName.whole
    apply List.mem_cons_self
  unfold origin within
  cases directory with
  | nil => simp [Text.startsWith, free]
  | cons c s =>
      split <;> simp [Text.startsWith, List.isPrefixOf]

/-- A name within a directory has its place there. -/
theorem place_within (isName : IsName name) :
  place here (within directory name) = base here directory ++ [name]
  := by
  rw [place, names_within isName, origin_within isName, List.foldl_append]
  simp [base, onward, isName.own, isName.up]

/-- A path within a directory can only be followed if the directory can be opened. -/
theorem opens_of_locate (isName : IsName name)
    (located : f.locate here (within directory name) = .ok p) :
  f.Opens here directory
  := by
  have part : directory <+: within directory name := by
    unfold within
    split <;> exact List.prefix_append _ _
  obtain ⟨-, clean, short, walked⟩ := locate_eq_ok_iff.mp located
  rw [names_within isName, origin_within isName, List.foldlM_append] at walked
  obtain ⟨d, walk, enters⟩ := bind_eq_ok_iff.mp walked
  obtain ⟨q, entered, -⟩ := bind_eq_ok_iff.mp enters
  have same : base here directory = d := foldl_of_walk walk
  refine ⟨same ▸ walk, same ▸ (onward_of_enter entered).1, ?_, ?_⟩
  · intro null
    apply clean (part.subset null)
  · exact Nat.lt_of_le_of_lt part.length_le short

/-- When a directory can be opened, where a path within it leads has nothing to do with the files. -/
theorem Opens.locate_congr (opens : f.Opens here directory)
    (opens' : g.Opens here directory) (isName : IsName name) :
  f.locate here (within directory name) = g.locate here (within directory name)
  := by
  have start : (if Text.startsWith (within directory name) ['/'] = true then [] else here)
      = origin here directory := origin_within isName
  unfold locate
  rw [names_within isName, start, List.foldlM_append, List.foldlM_append, opens.walk, opens'.walk]
  simp only [bind, Except.bind, List.foldlM_cons, List.foldlM_nil, enter, opens.isDirectory,
    opens'.isDirectory]

/-- A directory can still be opened when all directories are still there. -/
theorem Opens.mono (opens : f.Opens here directory)
    (stays : ∀ q, f.node? q = some .directory → g.node? q = some .directory) :
  g.Opens here directory
  := ⟨walk_mono opens.walk stays, stays _ opens.isDirectory, opens.clean, opens.short⟩

end Files

end Host

end NotebookEngine
