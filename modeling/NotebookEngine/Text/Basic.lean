/-!
# Text

A text is a list of Unicode scalar values. This module holds the searches the engine makes in
texts: prefixes and suffixes (`stripPrefix?`, `stripSuffix?`), occurrences (`occurs`,
`afterLast?`, `replaceAll`), and the cutting of a text into pieces at a separator (`pieces`) and
back (`join`).
-/

namespace NotebookEngine

/-- A text: its Unicode scalar values in order. -/
abbrev Text := List Char

namespace Text

/-! ### Prefixes and suffixes -/

/-- What follows `p` in a text that begins with `p`. -/
def stripPrefix? : (p s : Text) → Option Text
  | [], s => some s
  | _ :: _, [] => none
  | a :: p, c :: s => if a = c then stripPrefix? p s else none

/-- The text begins with `p`. -/
def startsWith (s p : Text) : Bool :=
  p.isPrefixOf s

/-- The text ends with `p`. -/
def endsWith (s p : Text) : Bool :=
  p.reverse.isPrefixOf s.reverse

/-- What precedes `p` in a text that ends with `p`. -/
def stripSuffix? (p s : Text) : Option Text :=
  (stripPrefix? p.reverse s.reverse).map List.reverse

/-- Stripping a prefix succeeds exactly on the texts that begin with it. -/
theorem stripPrefix?_eq_some_iff {p s r : Text} :
  stripPrefix? p s = some r ↔ s = p ++ r
  := by
  induction p generalizing s with
  | nil => simp [stripPrefix?, eq_comm]
  | cons a p ih =>
    cases s with
    | nil => simp [stripPrefix?]
    | cons c s =>
      by_cases h : a = c
      · simp [stripPrefix?, h, ih]
      · simp [stripPrefix?, h, Ne.symm h]

/-- Stripping a suffix succeeds exactly on the texts that end with it. -/
theorem stripSuffix?_eq_some_iff {p s r : Text} :
  stripSuffix? p s = some r ↔ s = r ++ p
  := by
  simp only [stripSuffix?, Option.map_eq_some_iff, stripPrefix?_eq_some_iff]
  constructor
  · rintro ⟨t, ht, rfl⟩
    simpa using congrArg List.reverse ht
  · rintro rfl
    exact ⟨r.reverse, by simp, by simp⟩

/-! ### Occurrences -/

/-- The text `p` occurs somewhere in the text. -/
def occurs (p : Text) : Text → Bool
  | [] => p.isEmpty
  | c :: s => p.isPrefixOf (c :: s) || occurs p s

/-- What follows the first occurrence of `p`, with what precedes it. -/
def cutFirst? (p : Text) : Text → Option (Text × Text)
  | [] => if p.isEmpty then some ([], []) else none
  | c :: s =>
    match stripPrefix? p (c :: s) with
    | some r => some ([], r)
    | none => (cutFirst? p s).map fun cut => (c :: cut.1, cut.2)

/-- What follows the last occurrence of `p`. -/
def afterLast? (p : Text) : Text → Option Text
  | [] => if p.isEmpty then some [] else none
  | c :: s =>
    match afterLast? p s with
    | some r => some r
    | none => stripPrefix? p (c :: s)

theorem afterLast?_cons (p : Text) (c : Char) (s : Text) :
  afterLast? p (c :: s) = (afterLast? p s).or (stripPrefix? p (c :: s))
  := by
  rw [afterLast?]
  cases afterLast? p s <;> rfl

/-- The disjoint occurrences of `p`, found from the left, are replaced by `q`; `skip` counts the
characters of an occurrence still to be dropped. -/
def replaceFrom (p q : Text) (skip : Nat) : Text → Text
  | [] => []
  | c :: s =>
    if 0 < skip then replaceFrom p q (skip - 1) s
    else if p.isPrefixOf (c :: s) then q ++ replaceFrom p q (p.length - 1) s
    else c :: replaceFrom p q 0 s

/-- The disjoint occurrences of a nonempty `p`, found from the left, are replaced by `q`. -/
def replaceAll (p q s : Text) : Text :=
  if p.isEmpty then s else replaceFrom p q 0 s

/-! ### Pieces -/

/-- The pieces of a text that begins with `c`, from the pieces of the rest. -/
def addToPieces (sep c : Char) (ps : List Text) : List Text :=
  if c = sep then [] :: ps
  else match ps with
    | [] => [[c]]
    | p :: ps => (c :: p) :: ps

/-- The pieces of a text between separators: one more than there are separators. -/
def pieces (sep : Char) (s : Text) : List Text :=
  s.foldr (addToPieces sep) [[]]

/-- The pieces with a separator between each two. -/
def join (sep : Text) : List Text → Text
  | [] => []
  | [p] => p
  | p :: q :: ps => p ++ sep ++ join sep (q :: ps)

@[simp] theorem pieces_nil (sep : Char) :
  pieces sep [] = [[]]
  := rfl

theorem pieces_cons (sep c : Char) (s : Text) :
  pieces sep (c :: s) = addToPieces sep c (pieces sep s)
  := rfl

theorem pieces_ne_nil (sep : Char) (s : Text) :
  pieces sep s ≠ []
  := by
  cases s with
  | nil => simp
  | cons c s =>
    rw [pieces_cons, addToPieces.eq_def]
    split
    · simp
    · split <;> simp

theorem join_cons {sep p : Text} {ps : List Text} (h : ps ≠ []) :
  join sep (p :: ps) = p ++ sep ++ join sep ps
  := by
  cases ps with
  | nil => contradiction
  | cons q ps => rfl

/-- Joining the pieces with their separator gives the text back. -/
theorem join_pieces (sep : Char) (s : Text) :
  join [sep] (pieces sep s) = s
  := by
  induction s with
  | nil => rfl
  | cons c s ih =>
    rw [pieces_cons, addToPieces.eq_def]
    split
    case isTrue h => rw [join_cons (pieces_ne_nil sep s), ih, h]; rfl
    case isFalse h =>
      obtain ⟨p, ps, hp⟩ := List.exists_cons_of_ne_nil (pieces_ne_nil sep s)
      rw [hp] at ih ⊢
      cases ps with
      | nil => simpa [join] using ih
      | cons q ps => simpa [join] using ih

/-- The pieces on both sides of a separator are those of the text around it. -/
theorem pieces_append (sep : Char) (s t : Text) :
  pieces sep (s ++ sep :: t) = pieces sep s ++ pieces sep t
  := by
  induction s with
  | nil => simp [pieces_cons, addToPieces]
  | cons c s ih =>
    obtain ⟨p, ps, hp⟩ := List.exists_cons_of_ne_nil (pieces_ne_nil sep s)
    rw [List.cons_append, pieces_cons, pieces_cons, ih, hp]
    simp only [addToPieces, List.cons_append]
    split <;> rfl

/-- A text without separators is one piece. -/
theorem pieces_of_notMem {sep : Char} {s : Text} (whole : sep ∉ s) :
  pieces sep s = [s]
  := by
  induction s with
  | nil => rfl
  | cons c s ih =>
    rw [List.mem_cons, not_or] at whole
    rw [pieces_cons, ih whole.2, addToPieces, if_neg (Ne.symm whole.1)]

/-- The lines of a text as `pieces` at the line feed. -/
def rows (s : Text) : List Text :=
  pieces '\n' s

/-- A line feed ends a line, and so does a carriage return before it; the last line needs none.
A text that ends with a line feed has no empty line after it. -/
def lines (s : Text) : List Text :=
  let ps := rows s
  let ended := ps.dropLast.map fun p => (stripSuffix? ['\r'] p).getD p
  match ps.getLast? with
  | none => ended
  | some [] => ended
  | some p => ended ++ [p]

/-! ### Numbers -/

/-- The decimal digits of a natural number. -/
def ofNat (n : Nat) : Text :=
  (toString n).toList

/-- The decimal form of an integer. -/
def ofInt (n : Int) : Text :=
  (toString n).toList

end Text

end NotebookEngine
