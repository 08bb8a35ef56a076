import NotebookEngine.Json.Typed
import NotebookEngine.Proofs.Json.Forms

/-!
# How far readers read

A reader that takes a well-formed value for something has read it to its end and no further, whether
it wants such values or not (`Exact`). So do the readers of texts, words, options and lists, if the
readers of their parts do.
-/

namespace NotebookEngine

namespace Json

variable {α β σ : Type}

/-- A scanner reads a well-formed value to its end, or refuses it. -/
def Exact (item : Scan α) : Prop :=
  ∀ {t gap rest : Text}, WellFormed t → Gap gap → Stops rest → Ends rest (item (gap ++ (t ++ rest)))

/-- A reader does so at every depth. -/
def Reader.Exact (r : Reader α) : Prop :=
  ∀ depth, Json.Exact (r.scan depth)

theorem Ends.map {rest : Text} {scanned : Except Stop (α × Text)} (ends : Ends rest scanned)
    (f : α → β) :
  Ends rest (scanned.map fun p => (f p.1, p.2))
  := by
  cases scanned with
  | error e => exact ends_error _ _
  | ok p =>
      obtain rfl := ends p rfl
      exact ends_ok _ _

theorem Reader.Exact.map {r : Reader α} (exact : r.Exact) (f : α → β) :
  (r.map f).Exact
  := by
  intro depth t gap rest wellFormed before stops
  apply Ends.map
  apply exact depth wellFormed before stops

theorem Tells.beginsElement {c : Char} {t : Text} (tells : Tells c t) :
  Begins .null c
  := ⟨tells.seen, tells.noBracket, fun _ => rfl⟩

/-! ### Texts, words and options -/

theorem Spells.ends {rest : Text} {spelled : Option Text} {scanned : Except Stop (Text × Text)}
    (spells : Spells [] rest spelled scanned) :
  Ends rest scanned
  := by
  cases spelled with
  | none =>
      obtain ⟨e, rfl⟩ := spells
      exact ends_error _ _
  | some s =>
      rw [Spells] at spells
      rw [spells]
      exact ends_ok _ _

section Scalars

variable {gap rest : Text} (before : Gap gap) (depth : Nat)

include before

theorem scan_text (wanted : Text) (gs : List Glyph) :
  (Reader.text wanted).scan depth (gap ++ (literal gs ++ rest))
    = scanString (gs.flatMap Glyph.text ++ '"' :: rest)
  := by
  rw [literal_append]
  simp only [Reader.text, skipGap_append before, skipGap_cons (show isGap '"' = false from rfl)]

/-- What the number that was read is as a word. -/
def asWord (bits : Nat) (read : Except Stop (Number × Text)) : Except Stop (Nat × Text) :=
  match read with
  | .error e => .error e
  | .ok (n, rest) =>
    match wordOf bits n with
    | .ok n => .ok (n, rest)
    | .error m => .error (misfitAt m rest)

omit before in
theorem asWord_ends {bits : Nat} {read : Except Stop (Number × Text)} (ends : Ends rest read) :
  Ends rest (asWord bits read)
  := by
  cases read with
  | error e => exact ends_error _ _
  | ok p =>
      obtain rfl := ends p rfl
      rw [asWord]
      split
      · exact ends_ok _ _
      · exact ends_error _ _

theorem scan_word_digit (bits : Nat) {c : Char} (digit : c.isDigit = true) (s : Text) :
  (Reader.word bits).scan depth (gap ++ c :: s) = asWord bits (scanNumber true (c :: s))
  := by
  have noSign := ne_of_isDigit digit (show '-'.isDigit = false from rfl)
  simp only [Reader.word, skipGap_append before, skipGap_cons (isGap_of_isDigit digit), digit,
    ↓reduceIte]
  rfl

theorem scan_word (bits : Nat) (n : Numeral) :
  ∃ positive, (Reader.word bits).scan depth (gap ++ (n.text ++ rest))
    = asWord bits (scanNumber positive (n.magnitude ++ rest))
  := by
  unfold Numeral.text
  split
  case isTrue =>
    refine ⟨false, ?_⟩
    rw [List.cons_append]
    simp only [Reader.word, skipGap_append before, skipGap_cons (show isGap '-' = false from rfl)]
    rfl
  case isFalse => exact ⟨true, scan_word_digit before depth bits n.isDigit_lead _⟩

end Scalars

/-- The reader of texts reads every string, if it can be read. -/
theorem exact_text (wanted : Text) :
  (Reader.text wanted).Exact
  := by
  intro depth t gap rest wellFormed before stops
  obtain ⟨c, s, begun, tells⟩ := wellFormed.tells
  by_cases quote : c = '"'
  · obtain ⟨gs, rfl⟩ := tells.string quote
    rw [scan_text before]
    exact (scanString_glyphs gs rest).ends
  · have misplaced : (Reader.text wanted).scan depth (gap ++ (t ++ rest))
        = .error (misplaced wanted (c :: (s ++ rest))) := by
      simp [begun, Reader.text, skipGap_append before, skipGap_cons tells.seen, quote]
    rw [misplaced]
    exact ends_error _ _

theorem exact_word (bits : Nat) :
  (Reader.word bits).Exact
  := by
  intro depth t gap rest wellFormed before stops
  obtain ⟨c, s, begun, tells⟩ := wellFormed.tells
  by_cases number : c = '-' ∨ c.isDigit = true
  · obtain ⟨n, rfl⟩ := tells.number number
    obtain ⟨positive, scanned⟩ := scan_word before depth bits n
    rw [scanned]
    exact asWord_ends (n.scanNumber_ends stops positive)
  · rw [not_or] at number
    have misplaced : (Reader.word bits).scan depth (gap ++ (t ++ rest))
        = .error (misplaced ('u' :: Text.ofNat bits) (c :: (s ++ rest))) := by
      simp [begun, Reader.word, skipGap_append before, skipGap_cons tells.seen, number]
    rw [misplaced]
    exact ends_error _ _

/-- Whatever is not null is read as it would be if it could not be left out. -/
theorem scan_optional {r : Reader α} {t gap : Text} (wellFormed : WellFormed t)
    (present : t ≠ "null".toList) (before : Gap gap) (depth : Nat) (rest : Text) :
  r.optional.scan depth (gap ++ (t ++ rest))
    = (r.scan depth (t ++ rest)).map fun p => (some p.1, p.2)
  := by
  obtain ⟨c, s, begun, tells⟩ := wellFormed.tells
  have null : c ≠ 'n' := fun same => present (tells.null same)
  simp [begun, Reader.optional, skipGap_append before, skipGap_cons tells.seen, null]

theorem scan_null (r : Reader α) {gap : Text} (before : Gap gap) (depth : Nat) (rest : Text) :
  r.optional.scan depth (gap ++ ("null".toList ++ rest)) = .ok (none, rest)
  := by
  simp [Reader.optional, skipGap_append before, skipGap_cons, isGap, scanWord, Except.map]

theorem Reader.Exact.optional {r : Reader α} (exact : r.Exact) :
  r.optional.Exact
  := by
  intro depth t gap rest wellFormed before stops
  by_cases null : t = "null".toList
  · rw [null, scan_null r before]
    exact ends_ok _ _
  · rw [scan_optional wellFormed null before]
    exact (exact depth wellFormed gap_nil stops).map some

/-! ### Lists -/

/-- The next element of a list comes to be read. -/
theorem nextElement?_item (first : Bool) {gap : Text} (before : Gap gap) {i : Item}
    (wellFormed : WellFormed i.text) (s : Text) :
  nextElement? first (lead first gap (i.shape ++ s)) = .ok (some (i.text ++ (i.after ++ s)))
  := by
  obtain ⟨c, t, begun, tells⟩ := wellFormed.tells
  rw [Item.shape, List.append_assoc, List.append_assoc, begun, List.cons_append]
  exact nextElement?_lead first before i.gapBefore tells.beginsElement _

theorem Exact.scanElements {item : Scan α} (exact : Json.Exact item) {is : List Item}
    (wellFormed : ∀ i ∈ is, WellFormed i.text) (fuel : Nat) (first : Bool) (read : List α)
    {gap closing : Text} (before : Gap gap) (after : Gap closing) (rest : Text) :
  Ends rest (scanElements item fuel first read
    (gap ++ (commas first (is.map Item.shape) ++ (closing ++ ']' :: rest))))
  := by
  induction is generalizing fuel first gap read with
  | nil =>
      cases fuel with
      | zero => exact ends_error _ _
      | succ fuel =>
          have gaps := before.append after
          rw [List.map_nil, commas, List.nil_append, ← List.append_assoc, Json.scanElements]
          simp only [nextElement?_end first gaps, endList_gap gaps]
          exact ends_ok _ _
  | cons i is ih =>
      cases fuel with
      | zero => exact ends_error _ _
      | succ fuel =>
          rw [List.forall_mem_cons] at wellFormed
          have stops := stops_commas (is.map Item.shape) after (.inl rfl) rest
          have ends := exact wellFormed.1 gap_nil (i.gapAfter.stops stops)
          rw [List.map_cons, append_commas, Json.scanElements]
          simp only [nextElement?_item first before wellFormed.1]
          split
          case h_1 => exact ends_error _ _
          case h_2 a rest' scanned =>
            obtain rfl := ends _ scanned
            exact ih wellFormed.2 _ _ _ i.gapAfter

theorem Reader.Exact.list {r : Reader α} (exact : r.Exact) :
  r.list.Exact
  := by
  intro depth t gap rest wellFormed before stops
  obtain ⟨c, s, begun, tells⟩ := wellFormed.tells
  by_cases bracket : c = '['
  · obtain ⟨is, closing, items, after, rfl⟩ := tells.list bracket
    rw [listText, List.cons_append, List.append_assoc, List.append_assoc]
    simp only [Reader.list, skipGap_append before, skipGap_cons (show isGap '[' = false from rfl)]
    cases depth with
    | zero => exact ends_error _ _
    | succ depth => exact Exact.scanElements (exact depth) items _ _ _ gap_nil after rest
  · have misplaced : r.list.scan depth (gap ++ (t ++ rest))
        = .error (misplaced "a sequence".toList (c :: (s ++ rest))) := by
      simp [begun, Reader.list, skipGap_append before, skipGap_cons tells.seen, bracket]
    rw [misplaced]
    exact ends_error _ _

end Json

end NotebookEngine
