import NotebookEngine.Proofs.Json.Literals

/-!
# Well-formed values

A text is a well-formed value if it has the form that one has in JSON, with any gaps between its parts
(`WellFormed`). Whatever a member of an object has for a value that nobody wants, it is passed over if
it is well-formed, however deep it is (`WellFormed.skipValue`).
-/

namespace NotebookEngine

namespace Json

/-! ### Values as they stand -/

/-- A value as it stands in a text, with the gaps around it. -/
structure Item where
  before : Text
  text : Text
  after : Text
  gapBefore : Gap before
  gapAfter : Gap after

/-- The text of a value with the gaps around it. -/
def Item.shape (i : Item) : Text :=
  i.before ++ (i.text ++ i.after)

/-- A member of an object as it stands in a text, with the gaps in it and around it. -/
structure Binding where
  before : Text
  name : List Glyph
  between : Text
  item : Item
  gapBefore : Gap before
  gapBetween : Gap between

namespace Binding

/-- The text of a member with the gaps in it and around it. -/
def shape (b : Binding) : Text :=
  b.before ++ (literal b.name ++ (b.between ++ ':' :: b.item.shape))

/-- The member has the name. -/
def Names (b : Binding) (name : Text) : Prop :=
  spelled? b.name = some name

instance (b : Binding) (name : Text) : Decidable (b.Names name) :=
  inferInstanceAs (Decidable (spelled? b.name = some name))

end Binding

/-- A list as it is written, with a gap before its closing bracket. -/
def listText (is : List Item) (closing : Text) : Text :=
  '[' :: (commas true (is.map Item.shape) ++ (closing ++ [']']))

/-- An object as it is written, with a gap before its closing brace. -/
def objectText (bs : List Binding) (closing : Text) : Text :=
  '\x7b' :: (commas true (bs.map Binding.shape) ++ (closing ++ ['\x7d']))

/-- A text that is a value. -/
inductive WellFormed : Text → Prop where
  | null : WellFormed "null".toList
  | boolean (b : Bool) : WellFormed (renderBool b)
  | number (n : Numeral) : WellFormed n.text
  | string (gs : List Glyph) : WellFormed (literal gs)
  | list {is : List Item} {closing : Text} (items : ∀ i ∈ is, WellFormed i.text)
    (blank : Gap closing) : WellFormed (listText is closing)
  | object {bs : List Binding} {closing : Text} (members : ∀ b ∈ bs, WellFormed b.item.text)
    (blank : Gap closing) : WellFormed (objectText bs closing)

theorem Numeral.isDigit_lead (n : Numeral) :
  n.lead.isDigit = true
  := n.digital n.lead List.mem_cons_self

/-- A number begins with a sign or a digit. -/
theorem Numeral.begins (n : Numeral) :
  ∃ c s, n.text = c :: s ∧ isGap c = false ∧ ∀ d, d ≠ '-' → d.isDigit = false → c ≠ d
  := by
  unfold Numeral.text
  split
  · exact ⟨'-', _, rfl, rfl, fun d other _ => other.symm⟩
  · refine ⟨n.lead, _, rfl, isGap_of_isDigit n.isDigit_lead, ?_⟩
    exact fun d _ other => ne_of_isDigit n.isDigit_lead other

/-- What its first character tells of a value. -/
structure Tells (c : Char) (t : Text) : Prop where
  seen : isGap c = false
  noBracket : c ≠ ']'
  null : c = 'n' → t = "null".toList
  number : c = '-' ∨ c.isDigit = true → ∃ n : Numeral, t = n.text
  string : c = '"' → ∃ gs, t = literal gs
  list : c = '[' → ∃ is closing, (∀ i ∈ is, WellFormed i.text) ∧ Gap closing ∧ t = listText is closing
  object : c = '\x7b' →
    ∃ bs closing, (∀ b ∈ bs, WellFormed b.item.text) ∧ Gap closing ∧ t = objectText bs closing

theorem WellFormed.tells {t : Text} (wellFormed : WellFormed t) :
  ∃ c s, t = c :: s ∧ Tells c t
  := by
  cases wellFormed with
  | null =>
      refine ⟨'n', _, rfl, ?_⟩
      constructor
      all_goals first | rfl | exact (absurd · (by decide)) | exact fun _ => rfl
  | boolean b =>
      cases b
      · refine ⟨'f', _, rfl, ?_⟩
        constructor
        all_goals first | rfl | exact (absurd · (by decide))
      · refine ⟨'t', _, rfl, ?_⟩
        constructor
        all_goals first | rfl | exact (absurd · (by decide))
  | string gs =>
      refine ⟨'"', _, rfl, ?_⟩
      constructor
      case string => exact fun _ => ⟨gs, rfl⟩
      all_goals first | rfl | exact (absurd · (by decide))
  | @list is closing items blank =>
      refine ⟨'[', _, rfl, ?_⟩
      constructor
      case list => exact fun _ => ⟨is, closing, items, blank, rfl⟩
      all_goals first | rfl | exact (absurd · (by decide))
  | @object bs closing members blank =>
      refine ⟨'\x7b', _, rfl, ?_⟩
      constructor
      case object => exact fun _ => ⟨bs, closing, members, blank, rfl⟩
      all_goals first | rfl | exact (absurd · (by decide))
  | number n =>
      obtain ⟨c, s, begun, seen, apart⟩ := n.begins
      refine ⟨c, s, begun, seen, apart ']' (by decide) rfl, ?_, fun _ => ⟨n, rfl⟩, ?_, ?_, ?_⟩
      all_goals
        intro other
        exact absurd other (apart _ (by decide) rfl)

/-! ### Passing over values -/

/-- What stands behind an item in a list or an object does not go on with its value. -/
theorem stops_commas (ts : List Text) {closing : Text} (blank : Gap closing) {c : Char}
    (close : c = ']' ∨ c = '\x7d') (rest : Text) :
  Stops (commas false ts ++ (closing ++ c :: rest))
  := by
  cases ts with
  | nil => exact blank.stops (stops_cons (.inr (.inr close)) rest)
  | cons t ts => exact stops_cons (.inr (.inl rfl)) _

section Skip

variable {gap before : Text} (blank : Gap gap) (blank' : Gap before) (brackets : List Bracket)
  (fuel : Nat) (s : Text)

include blank in
theorem skipFrom_endList (comma : Bool) :
  skipFrom (fuel + 1) (.after comma) (.list :: brackets) (gap ++ ']' :: s)
    = skipFrom fuel (.after true) brackets s
  := by
  simp [skipFrom, skipGap_append blank, skipGap_cons, isGap]

include blank in
theorem skipFrom_endObject (comma : Bool) :
  skipFrom (fuel + 1) (.after comma) (.object :: brackets) (gap ++ '\x7d' :: s)
    = skipFrom fuel (.after true) brackets s
  := by
  simp [skipFrom, skipGap_append blank, skipGap_cons, isGap]

include blank blank' in
/-- The next element of a list comes to be passed over. -/
theorem skipFrom_element (first : Bool) {c : Char} (seen : isGap c = false) (noBracket : c ≠ ']') :
  ∃ gap', Gap gap'
    ∧ skipFrom (fuel + 1) (.after !first) (.list :: brackets) (lead first gap (before ++ c :: s))
      = skipFrom fuel .value (.list :: brackets) (gap' ++ c :: s)
  := by
  cases first with
  | true =>
      refine ⟨[], gap_nil, ?_⟩
      simp only [lead, ↓reduceIte, skipFrom, skipGap_append blank, skipGap_append blank',
        skipGap_cons seen]
      simp [noBracket]
  | false =>
      refine ⟨before, blank', ?_⟩
      simp only [lead, skipFrom, skipGap_append blank]
      simp [skipGap_cons, isGap]

include blank in
theorem skipKey_literal {between : Text} (blank' : Gap between) (gs : List Glyph) :
  skipKey (gap ++ (literal gs ++ (between ++ ':' :: s))) = .ok s
  := by
  have enough := length_le_flatMap Glyph.text_ne_nil gs
  rw [literal_append, skipKey, skipGap_append blank, skipGap_cons rfl]
  simp only
  rw [skipString_glyphs (by rw [List.length_append]; omega)]
  exact scanColon_gap blank' s

include blank blank' in
/-- The value of the next member of an object comes to be passed over. -/
theorem skipFrom_member (first : Bool) {between : Text} (blank'' : Gap between) (gs : List Glyph) :
  skipFrom (fuel + 1) (.after !first) (.object :: brackets)
      (lead first gap (before ++ (literal gs ++ (between ++ ':' :: s))))
    = skipFrom fuel .value (.object :: brackets) s
  := by
  cases first with
  | true =>
      have key := skipKey_literal gap_nil s blank'' gs
      rw [List.nil_append, literal, List.cons_append] at key
      rw [literal, List.cons_append]
      simp only [lead, ↓reduceIte, skipFrom, skipGap_append blank, skipGap_append blank',
        skipGap_cons (show isGap '"' = false from rfl)]
      simp [-List.append_assoc, key]
  | false =>
      have key := skipKey_literal blank' s blank'' gs
      simp only [lead, skipFrom, skipGap_append blank]
      simp [-List.append_assoc, skipGap_cons, isGap, key]

end Skip

/-- A value is passed over in so many steps. -/
def PassesIn (k : Nat) (t : Text) : Prop :=
  ∀ fuel brackets gap rest, Gap gap → Stops rest →
    skipFrom (fuel + k) .value brackets (gap ++ (t ++ rest))
      = skipFrom fuel (.after true) brackets rest

theorem Numeral.passesIn (n : Numeral) :
  PassesIn 1 n.text
  := by
  intro fuel brackets gap rest before stops
  have passed := n.skipNumber_eq stops
  unfold Numeral.text
  split
  · simp [skipFrom, skipGap_append before, skipGap_cons, isGap, passed]
  · rw [Numeral.magnitude, List.cons_append] at passed ⊢
    rw [skipFrom]
    simp only [skipGap_append before, skipGap_cons (isGap_of_isDigit n.isDigit_lead)]
    -- a digit is none of the characters that begin other values
    split <;> rename_i same
    case h_9 =>
      cases same
      simp only [n.isDigit_lead, ↓reduceIte, passed]
    case h_1 => cases same
    all_goals exact absurd (List.cons.inj same).1 (ne_of_isDigit n.isDigit_lead rfl)

theorem passesIn_literal (gs : List Glyph) :
  PassesIn 1 (literal gs)
  := by
  intro fuel brackets gap rest before stops
  have enough := length_le_flatMap Glyph.text_ne_nil gs
  rw [literal_append, skipFrom]
  simp only [skipGap_append before, skipGap_cons (show isGap '"' = false from rfl)]
  rw [skipString_glyphs (by rw [List.length_append]; omega)]

/-- The elements of a list are passed over up to its closing bracket. -/
theorem passes_items {is : List Item}
    (passes : ∀ i ∈ is, ∃ k ≤ 2 * i.text.length, PassesIn k i.text)
    (wellFormed : ∀ i ∈ is, WellFormed i.text) (first : Bool) :
  ∃ k ≤ 2 * (commas first (is.map Item.shape)).length + (if first then 2 else 1),
    ∀ fuel brackets gap closing rest, Gap gap → Gap closing →
      skipFrom (fuel + k) (.after !first) (.list :: brackets)
          (gap ++ (commas first (is.map Item.shape) ++ (closing ++ ']' :: rest)))
        = skipFrom fuel (.after true) brackets rest
  := by
  induction is generalizing first with
  | nil =>
      refine ⟨1, by split <;> simp, ?_⟩
      intro fuel brackets gap closing rest before after
      rw [List.map_nil, commas, List.nil_append, ← List.append_assoc]
      exact skipFrom_endList (before.append after) _ _ _ _
  | cons i is ih =>
      rw [List.forall_mem_cons] at passes wellFormed
      obtain ⟨⟨k, cheap, passes⟩, others⟩ := passes
      obtain ⟨k', cheap', passes'⟩ := ih others wellFormed.2 false
      refine ⟨k' + k + 1, ?_, ?_⟩
      · cases first <;>
          simp only [List.map_cons, commas, List.length_cons, List.length_append, Item.shape,
            Bool.false_eq_true, ↓reduceIte] at cheap' ⊢ <;>
          omega
      · intro fuel brackets gap closing rest before after
        obtain ⟨c, t, begun, tells⟩ := wellFormed.1.tells
        have stops := stops_commas (is.map Item.shape) after (.inl rfl) rest
        rw [List.map_cons, append_commas, Item.shape, List.append_assoc, List.append_assoc, begun,
          List.cons_append, ← Nat.add_assoc, ← Nat.add_assoc]
        obtain ⟨gap', blank', skips⟩ := skipFrom_element before i.gapBefore brackets
          (fuel + k' + k) (t ++ (i.after ++ (commas false (is.map Item.shape)
            ++ (closing ++ ']' :: rest)))) first tells.seen tells.noBracket
        rw [skips, ← List.cons_append, ← begun, passes _ _ _ _ blank' (i.gapAfter.stops stops)]
        exact passes' _ _ _ _ _ i.gapAfter after

/-- The members of an object are passed over up to its closing brace. -/
theorem passes_members {bs : List Binding}
    (passes : ∀ b ∈ bs, ∃ k ≤ 2 * b.item.text.length, PassesIn k b.item.text) (first : Bool) :
  ∃ k ≤ 2 * (commas first (bs.map Binding.shape)).length + (if first then 2 else 1),
    ∀ fuel brackets gap closing rest, Gap gap → Gap closing →
      skipFrom (fuel + k) (.after !first) (.object :: brackets)
          (gap ++ (commas first (bs.map Binding.shape) ++ (closing ++ '\x7d' :: rest)))
        = skipFrom fuel (.after true) brackets rest
  := by
  induction bs generalizing first with
  | nil =>
      refine ⟨1, by split <;> simp, ?_⟩
      intro fuel brackets gap closing rest before after
      rw [List.map_nil, commas, List.nil_append, ← List.append_assoc]
      exact skipFrom_endObject (before.append after) _ _ _ _
  | cons b bs ih =>
      rw [List.forall_mem_cons] at passes
      obtain ⟨⟨k, cheap, passes⟩, others⟩ := passes
      obtain ⟨k', cheap', passes'⟩ := ih others false
      refine ⟨k' + k + 1, ?_, ?_⟩
      · cases first <;>
          simp only [List.map_cons, commas, List.length_cons, List.length_append, Binding.shape,
            Item.shape, Bool.false_eq_true, ↓reduceIte] at cheap' ⊢ <;>
          omega
      · intro fuel brackets gap closing rest before after
        have stops := stops_commas (bs.map Binding.shape) after (.inr rfl) rest
        rw [List.map_cons, append_commas, Binding.shape, List.append_assoc, List.append_assoc,
          List.append_assoc, List.cons_append, ← Nat.add_assoc, ← Nat.add_assoc,
          skipFrom_member before b.gapBefore _ _ _ first b.gapBetween, Item.shape, List.append_assoc,
          List.append_assoc, passes _ _ _ _ b.item.gapBefore (b.item.gapAfter.stops stops)]
        exact passes' _ _ _ _ _ b.item.gapAfter after

/-- A value is passed over in no more than two steps for each of its characters. -/
theorem WellFormed.passes {t : Text} (wellFormed : WellFormed t) :
  ∃ k ≤ 2 * t.length, PassesIn k t
  := by
  induction wellFormed with
  | null =>
      refine ⟨1, by decide, ?_⟩
      intro fuel brackets gap rest before stops
      simp [skipFrom, skipGap_append before, skipGap_cons, isGap, scanWord]
  | boolean b =>
      refine ⟨1, by cases b <;> decide, ?_⟩
      intro fuel brackets gap rest before stops
      cases b <;> simp [renderBool, skipFrom, skipGap_append before, skipGap_cons, isGap, scanWord]
  | number n =>
      refine ⟨1, ?_, n.passesIn⟩
      unfold Numeral.text Numeral.magnitude
      split <;> simp only [List.length_cons] <;> omega
  | string gs => exact ⟨1, by simp [literal]; omega, passesIn_literal gs⟩
  | @list is closing items blank ih =>
      obtain ⟨k, cheap, passes⟩ := passes_items ih items true
      refine ⟨k + 1, ?_, ?_⟩
      · simp only [listText, List.length_cons, List.length_append, ↓reduceIte] at cheap ⊢
        omega
      · intro fuel brackets gap rest before stops
        rw [listText, List.cons_append, List.append_assoc, List.append_assoc, ← Nat.add_assoc,
          skipFrom]
        simp only [skipGap_append before, skipGap_cons (show isGap '[' = false from rfl)]
        exact passes _ _ [] _ _ gap_nil blank
  | @object bs closing members blank ih =>
      obtain ⟨k, cheap, passes⟩ := passes_members ih true
      refine ⟨k + 1, ?_, ?_⟩
      · simp only [objectText, List.length_cons, List.length_append, ↓reduceIte] at cheap ⊢
        omega
      · intro fuel brackets gap rest before stops
        rw [objectText, List.cons_append, List.append_assoc, List.append_assoc, ← Nat.add_assoc,
          skipFrom]
        simp only [skipGap_append before, skipGap_cons (show isGap '\x7b' = false from rfl)]
        exact passes _ _ [] _ _ gap_nil blank

/-- A value that nobody wants is passed over, whatever follows that does not go on with it. -/
theorem WellFormed.skipValue {t : Text} (wellFormed : WellFormed t) {gap rest : Text}
    (before : Gap gap) (stops : Stops rest) :
  skipValue (gap ++ (t ++ rest)) = .ok rest
  := by
  obtain ⟨k, cheap, passes⟩ := wellFormed.passes
  obtain ⟨fuel, enough⟩ : ∃ fuel, 2 * (gap ++ (t ++ rest)).length + 2 = fuel + 1 + k := by
    refine ⟨2 * (gap ++ (t ++ rest)).length + 1 - k, ?_⟩
    simp only [List.length_append]
    omega
  rw [Json.skipValue, enough, passes _ _ _ _ before stops, skipFrom_closed]

end Json

end NotebookEngine
