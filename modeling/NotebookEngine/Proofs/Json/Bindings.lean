import NotebookEngine.Proofs.Json.Extents

/-!
# Members of records

The members of an object are read in their order: the name of a field has the value read for the
field, if it was not given before, and other names have their values passed over (`Record.Assigns`). A
record is read if all its members are (`Record.Assigns.scanNamed`), and only then
(`Record.assigns_of_scanNamed`).
-/

namespace NotebookEngine

namespace Json

variable {α σ : Type}

/-- A scanner takes a value for something, whatever stands around it. -/
def Reads (item : Scan α) (t : Text) (a : α) : Prop :=
  ∀ gap rest, Gap gap → Stops rest → item (gap ++ (t ++ rest)) = .ok (a, rest)

/-- A scanner takes a value for something at some place. -/
def Accepts (item : Scan α) (t : Text) (a : α) : Prop :=
  ∃ gap rest, Gap gap ∧ Stops rest ∧ item (gap ++ (t ++ rest)) = .ok (a, rest)

theorem Reads.unique {item : Scan α} {t : Text} {a b : α} (reads : Reads item t a)
    (reads' : Reads item t b) :
  a = b
  := by
  have read := reads [] [] gap_nil stops_nil
  rw [reads' [] [] gap_nil stops_nil] at read
  exact (Prod.mk.inj (Except.ok.inj read)).1.symm

theorem Reads.map {β : Type} {r : Reader α} {depth : Nat} {t : Text} {a : α}
    (reads : Reads (r.scan depth) t a) (f : α → β) :
  Reads ((r.map f).scan depth) t (f a)
  := by
  intro gap rest before stops
  simp only [Reader.map, reads gap rest before stops, Except.map]

theorem Accepts.of_map {β : Type} {r : Reader α} {depth : Nat} {t : Text} {f : α → β} {b : β}
    (accepts : Accepts ((r.map f).scan depth) t b) :
  ∃ a, b = f a ∧ Accepts (r.scan depth) t a
  := by
  obtain ⟨gap, rest, before, stops, read⟩ := accepts
  simp only [Reader.map] at read
  cases scanned : r.scan depth (gap ++ (t ++ rest)) with
  | error e =>
      rw [scanned] at read
      cases read
  | ok p =>
      rw [scanned] at read
      cases read
      exact ⟨p.1, rfl, gap, _, before, stops, scanned⟩

/-- The members of an object turn one draft into another. -/
inductive Record.Assigns (r : Record σ α) (reads : Field σ → Text → (σ → σ) → Prop) :
    σ → List Binding → σ → Prop where
  | nil {draft : σ} : Assigns r reads draft [] draft
  | unknown {draft draft' : σ} {b : Binding} {bs : List Binding} {name : Text} (named : b.Names name)
    (unknown : r.fields.find? (fun f => f.name = name) = none) (wellFormed : WellFormed b.item.text)
    (assigns : Assigns r reads draft bs draft') : Assigns r reads draft (b :: bs) draft'
  | known {draft draft' : σ} {b : Binding} {bs : List Binding} {name : Text} {f : Field σ}
    {set : σ → σ} (named : b.Names name) (known : r.fields.find? (fun f => f.name = name) = some f)
    (lacked : f.filled draft = false) (read : reads f b.item.text set)
    (assigns : Assigns r reads (set draft) bs draft') : Assigns r reads draft (b :: bs) draft'

/-! ### Names -/

theorem nextKey?_literal (first : Bool) {gap gap' : Text} (blank : Gap gap) (blank' : Gap gap')
    (gs : List Glyph) (s : Text) :
  nextKey? first (lead first gap (gap' ++ (literal gs ++ s)))
    = (scanString (gs.flatMap Glyph.text ++ '"' :: s)).map some
  := by
  rw [literal_append]
  cases first <;>
    simp [lead, nextKey?, skipGap_append blank, skipGap_append blank', skipGap_cons, isGap]

theorem scanString_spelled {gs : List Glyph} {s : Text} (spelled : spelled? gs = some s)
    (rest : Text) :
  scanString (gs.flatMap Glyph.text ++ '"' :: rest) = .ok (s, rest)
  := by
  have spells := scanString_glyphs gs rest
  rw [spelled] at spells
  exact spells

theorem scanString_nameless {gs : List Glyph} (nameless : spelled? gs = none) (rest : Text) :
  ∃ e, scanString (gs.flatMap Glyph.text ++ '"' :: rest) = .error e
  := by
  have spells := scanString_glyphs gs rest
  rw [nameless] at spells
  exact spells

/-- The name of the next member is read, and its value comes next. -/
theorem nextKey?_binding (first : Bool) {gap : Text} (blank : Gap gap) (b : Binding) (s : Text) :
  nextKey? first (lead first gap (b.shape ++ s))
    = (scanString (b.name.flatMap Glyph.text ++ '"' :: (b.between ++ ':' :: (b.item.shape ++ s)))).map
        some
  := by
  rw [Binding.shape, List.append_assoc, List.append_assoc, List.append_assoc, List.cons_append]
  exact nextKey?_literal first blank b.gapBefore _ _

/-- A scanner of the value of a member begins with the gap before it. -/
theorem scanColon_binding {β : Type} (b : Binding) (s : Text) (item : Text → Except Stop β) :
  (scanColon (b.between ++ ':' :: (b.item.shape ++ s)) >>= item)
    = item (b.item.before ++ (b.item.text ++ (b.item.after ++ s)))
  := by
  rw [scanColon_gap b.gapBetween, Item.shape, List.append_assoc, List.append_assoc]
  rfl

theorem Binding.length_le (bs : List Binding) :
  bs.length ≤ (commas true (bs.map shape)).length
  := by
  apply length_le_commas
  intro b _
  simp [shape]

/-! ### Objects -/

namespace Record

variable {r : Record σ α} {depth : Nat} {draft draft' : σ}

section Member

variable {fuel : Nat} (first : Bool) {gap : Text} (before : Gap gap) {b : Binding} {name : Text}
  {f : Field σ} (s : Text)

include before

/-- A member without a name is refused. -/
theorem scanNamed_nameless (nameless : spelled? b.name = none) :
  ∃ e, r.scanNamed depth (fuel + 1) first draft (lead first gap (b.shape ++ s)) = .error e
  := by
  obtain ⟨e, unread⟩ := scanString_nameless nameless (b.between ++ ':' :: (b.item.shape ++ s))
  rw [Record.scanNamed, nextKey?_binding first before, unread]
  exact ⟨e, rfl⟩

/-- The value of a member that nobody knows is passed over. -/
theorem scanNamed_unknown (named : b.Names name)
    (unknown : r.fields.find? (fun f => f.name = name) = none) (wellFormed : WellFormed b.item.text)
    (stops : Stops (b.item.after ++ s)) :
  r.scanNamed depth (fuel + 1) first draft (lead first gap (b.shape ++ s))
    = r.scanNamed depth fuel false draft (b.item.after ++ s)
  := by
  rw [Record.scanNamed, nextKey?_binding first before]
  simp only [scanString_spelled named, Except.map, unknown, scanColon_binding,
    wellFormed.skipValue b.item.gapBefore stops]

/-- A member that was given before is refused. -/
theorem scanNamed_filled (named : b.Names name)
    (known : r.fields.find? (fun f => f.name = name) = some f) (filled : f.filled draft = true) :
  ∃ e, r.scanNamed depth (fuel + 1) first draft (lead first gap (b.shape ++ s)) = .error e
  := by
  rw [Record.scanNamed, nextKey?_binding first before]
  simp only [scanString_spelled named, Except.map, known, filled, ↓reduceIte]
  exact ⟨_, rfl⟩

/-- The value of another member is read for its field. -/
theorem scanNamed_known (named : b.Names name)
    (known : r.fields.find? (fun f => f.name = name) = some f) (lacked : f.filled draft = false) :
  r.scanNamed depth (fuel + 1) first draft (lead first gap (b.shape ++ s))
    = match f.read.scan depth (b.item.before ++ (b.item.text ++ (b.item.after ++ s))) with
      | .error e => .error e
      | .ok (set, rest) => r.scanNamed depth fuel false (set draft) rest
  := by
  rw [Record.scanNamed, nextKey?_binding first before]
  cases read : f.read.scan depth (b.item.before ++ (b.item.text ++ (b.item.after ++ s))) <;>
    simp only [scanString_spelled named, Except.map, known, lacked, Bool.false_eq_true, ↓reduceIte,
      scanColon_binding, read]

end Member

/-- Members that can be read are read, up to the closing brace. -/
theorem Assigns.scanNamed {bs : List Binding}
    (assigns : r.Assigns (fun f => Reads (f.read.scan depth)) draft bs draft') {fuel : Nat}
    (enough : bs.length < fuel) (first : Bool) {gap closing : Text} (before : Gap gap)
    (after : Gap closing) (rest : Text) :
  ∃ gap', Gap gap' ∧ r.scanNamed depth fuel first draft
      (gap ++ (commas first (bs.map Binding.shape) ++ (closing ++ '\x7d' :: rest)))
    = .ok (draft', gap' ++ '\x7d' :: rest)
  := by
  induction assigns generalizing fuel first gap with
  | nil =>
      obtain ⟨fuel, rfl⟩ := Nat.exists_eq_add_one.mpr enough
      have gaps := before.append after
      refine ⟨gap ++ closing, gaps, ?_⟩
      rw [List.map_nil, commas, List.nil_append, ← List.append_assoc,
        Record.scanNamed_end (nextKey?_end first gaps _)]
  | @unknown _ _ b bs name named unknown wellFormed assigns ih =>
      obtain ⟨fuel, rfl⟩ := Nat.exists_eq_add_one.mpr (Nat.zero_lt_of_lt enough)
      have stops := b.item.gapAfter.stops (stops_commas (bs.map Binding.shape) after (.inr rfl) rest)
      rw [List.map_cons, append_commas, scanNamed_unknown first before _ named unknown wellFormed stops]
      exact ih (Nat.lt_of_succ_lt_succ enough) false b.item.gapAfter
  | @known _ _ b bs name f set named known lacked read assigns ih =>
      obtain ⟨fuel, rfl⟩ := Nat.exists_eq_add_one.mpr (Nat.zero_lt_of_lt enough)
      have stops := b.item.gapAfter.stops (stops_commas (bs.map Binding.shape) after (.inr rfl) rest)
      rw [List.map_cons, append_commas, scanNamed_known first before _ named known lacked,
        read _ _ b.item.gapBefore stops]
      exact ih (Nat.lt_of_succ_lt_succ enough) false b.item.gapAfter

/-- If the members of an object are read to some end, each of them is, and the end is the closing
brace of the object. -/
theorem assigns_of_scanNamed (exact : ∀ f ∈ r.fields, f.read.Exact) {bs : List Binding}
    (wellFormed : ∀ b ∈ bs, WellFormed b.item.text) {fuel : Nat} {first : Bool} {gap closing : Text}
    (before : Gap gap) (after : Gap closing) {rest : Text} {p : σ × Text}
    (scanned : r.scanNamed depth fuel first draft
      (gap ++ (commas first (bs.map Binding.shape) ++ (closing ++ '\x7d' :: rest))) = .ok p) :
  r.Assigns (fun f => Accepts (f.read.scan depth)) draft bs p.1
    ∧ ∃ gap', Gap gap' ∧ p.2 = gap' ++ '\x7d' :: rest
  := by
  induction bs generalizing fuel first gap draft with
  | nil =>
      cases fuel with
      | zero => cases scanned
      | succ fuel =>
          have gaps := before.append after
          rw [List.map_nil, commas, List.nil_append, ← List.append_assoc,
            Record.scanNamed_end (nextKey?_end first gaps _)] at scanned
          cases scanned
          exact ⟨.nil, gap ++ closing, gaps, rfl⟩
  | cons b bs ih =>
      cases fuel with
      | zero => cases scanned
      | succ fuel =>
          rw [List.forall_mem_cons] at wellFormed
          have stops := b.item.gapAfter.stops
            (stops_commas (bs.map Binding.shape) after (.inr rfl) rest)
          rw [List.map_cons, append_commas] at scanned
          cases named : spelled? b.name with
          | none =>
              obtain ⟨e, refused⟩ := scanNamed_nameless first before _ named
              cases refused.symm.trans scanned
          | some name =>
              cases known : r.fields.find? (fun f => f.name = name) with
              | none =>
                  rw [scanNamed_unknown first before _ named known wellFormed.1 stops] at scanned
                  obtain ⟨assigns, ends⟩ := ih wellFormed.2 b.item.gapAfter scanned
                  exact ⟨.unknown named known wellFormed.1 assigns, ends⟩
              | some f =>
                  cases lacked : f.filled draft with
                  | true =>
                      obtain ⟨e, refused⟩ := scanNamed_filled first before _ named known lacked
                      cases refused.symm.trans scanned
                  | false =>
                      -- the value ends where it should, so the other members come next
                      rw [scanNamed_known first before _ named known lacked] at scanned
                      split at scanned
                      case h_1 => cases scanned
                      case h_2 set rest' read =>
                        have among : f ∈ r.fields := List.mem_of_find?_eq_some known
                        obtain rfl := exact f among depth wellFormed.1 b.item.gapBefore stops _ read
                        obtain ⟨assigns, ends⟩ := ih wellFormed.2 b.item.gapAfter scanned
                        refine ⟨.known named known lacked ?_ assigns, ends⟩
                        exact ⟨_, _, b.item.gapBefore, stops, read⟩

/-! ### Lists of fields -/

/-- A list does not end where there is an element yet. -/
theorem endList_item (first : Bool) {gap : Text} (before : Gap gap) {i : Item}
    (wellFormed : WellFormed i.text) (s : Text) :
  ∃ e, endList (lead first gap (i.shape ++ s)) = .error e
  := by
  obtain ⟨c, t, begun, tells⟩ := wellFormed.tells
  rw [Item.shape, List.append_assoc, List.append_assoc, begun, List.cons_append]
  cases first with
  | true =>
      simp only [lead, ↓reduceIte, endList, skipGap_append before, skipGap_append i.gapBefore,
        skipGap_cons tells.seen]
      split
      case h_2 same => exact absurd (List.cons.inj same).1 tells.noBracket
      case h_3 => split <;> exact ⟨_, rfl⟩
      all_goals exact ⟨_, rfl⟩
  | false =>
      simp only [lead, endList, skipGap_append before, Bool.false_eq_true, ↓reduceIte,
        skipGap_cons (show isGap ',' = false from rfl)]
      split <;> exact ⟨_, rfl⟩

/-- When the fields are read from a list, the list ends with it or not at all. -/
theorem endList_of_scanFields {fs : List (Field σ)} (exact : ∀ f ∈ fs, f.read.Exact)
    {is : List Item} (wellFormed : ∀ i ∈ is, WellFormed i.text) {index : Nat} {gap closing : Text}
    (before : Gap gap) (after : Gap closing) {rest : Text} {p : σ × Text}
    (scanned : r.scanFields depth fs index draft
      (gap ++ (commas (index = 0) (is.map Item.shape) ++ (closing ++ ']' :: rest))) = .ok p)
    {rest' : Text} (ends : endList p.2 = .ok rest') :
  rest' = rest
  := by
  induction fs generalizing is index gap draft with
  | nil =>
      rw [scanFields] at scanned
      cases scanned
      cases is with
      | nil =>
          rw [List.map_nil, commas, List.nil_append, ← List.append_assoc,
            endList_gap (before.append after)] at ends
          exact (Except.ok.inj ends).symm
      | cons i is =>
          rw [List.map_cons, append_commas] at ends
          obtain ⟨e, stopped⟩ := endList_item _ before (wellFormed i List.mem_cons_self) _
          cases stopped.symm.trans ends
  | cons f fs ih =>
      rw [List.forall_mem_cons] at exact
      cases is with
      | nil =>
          have gaps := before.append after
          rw [List.map_nil, commas, List.nil_append, ← List.append_assoc, scanFields] at scanned
          simp only [nextElement?_end _ gaps] at scanned
          split at scanned
          case h_1 => cases scanned
          case h_2 =>
            cases scanned
            rw [endList_gap gaps] at ends
            exact (Except.ok.inj ends).symm
      | cons i is =>
          rw [List.forall_mem_cons] at wellFormed
          have stops := i.gapAfter.stops (stops_commas (is.map Item.shape) after (.inl rfl) rest)
          have read := exact.1 depth wellFormed.1 gap_nil stops
          rw [List.map_cons, append_commas, scanFields] at scanned
          simp only [nextElement?_item _ before wellFormed.1] at scanned
          split at scanned
          case h_1 => cases scanned
          case h_2 set rest'' taken =>
            obtain rfl := read _ taken
            have later : decide (index + 1 = 0) = false := rfl
            exact ih exact.2 wellFormed.2 i.gapAfter (later ▸ scanned)

/-! ### Records -/

section Extent

variable (exact : ∀ f ∈ r.fields, f.read.Exact) {gap closing rest : Text} (before : Gap gap)
  (after : Gap closing)

include exact before after

theorem scan_list_ends {is : List Item} (items : ∀ i ∈ is, WellFormed i.text) :
  Ends rest (r.reader.scan depth (gap ++ (listText is closing ++ rest)))
  := by
  rw [listText, List.cons_append, List.append_assoc, List.append_assoc]
  simp only [Record.reader, skipGap_append before, skipGap_cons (show isGap '[' = false from rfl)]
  cases depth with
  | zero => exact ends_error _ _
  | succ depth =>
      dsimp only
      split
      case h_1 => exact ends_error _ _
      case h_2 draft rest' scanned =>
        split
        case h_1 ends closes =>
          obtain rfl := endList_of_scanFields exact items gap_nil after scanned ends
          exact ends_ok _ _
        all_goals exact ends_error _ _

theorem scan_object_ends {bs : List Binding} (members : ∀ b ∈ bs, WellFormed b.item.text) :
  Ends rest (r.reader.scan depth (gap ++ (objectText bs closing ++ rest)))
  := by
  rw [objectText, List.cons_append, List.append_assoc, List.append_assoc]
  simp only [Record.reader, skipGap_append before,
    skipGap_cons (show isGap '\x7b' = false from rfl)]
  cases depth with
  | zero => exact ends_error _ _
  | succ depth =>
      dsimp only
      split
      case h_1 => exact ends_error _ _
      case h_2 draft rest' scanned =>
        obtain ⟨-, gap', blank, rfl⟩ := assigns_of_scanNamed exact members gap_nil after scanned
        rw [endObject_gap blank]
        split
        case h_1 same closes =>
          obtain rfl := Except.ok.inj same
          exact ends_ok _ _
        all_goals exact ends_error _ _

end Extent

/-- A record is read to its end. -/
theorem exact_reader (exact : ∀ f ∈ r.fields, f.read.Exact) :
  r.reader.Exact
  := by
  intro depth t gap rest wellFormed before stops
  obtain ⟨c, s, begun, tells⟩ := wellFormed.tells
  by_cases bracket : c = '['
  · obtain ⟨is, closing, items, after, rfl⟩ := tells.list bracket
    exact scan_list_ends exact before after items
  by_cases brace : c = '\x7b'
  · obtain ⟨bs, closing, members, after, rfl⟩ := tells.object brace
    exact scan_object_ends exact before after members
  · have misplaced : r.reader.scan depth (gap ++ (t ++ rest))
        = .error (misplaced r.title (c :: (s ++ rest))) := by
      simp [begun, Record.reader, skipGap_append before, skipGap_cons tells.seen, bracket, brace]
    rw [misplaced]
    exact ends_error _ _

/-- A record is read from an object if its members are. -/
theorem Assigns.reads {bs : List Binding}
    (assigns : r.Assigns (fun f => Reads (f.read.scan depth)) r.empty bs draft) {a : α}
    (closes : r.close draft = .ok a) {closing : Text} (after : Gap closing) :
  Reads (r.reader.scan (depth + 1)) (objectText bs closing) a
  := by
  intro gap rest before stops
  have enough : bs.length < (commas true (bs.map Binding.shape)
      ++ (closing ++ '\x7d' :: rest)).length + 1 := by
    have length := Binding.length_le bs
    rw [List.length_append]
    omega
  obtain ⟨gap', blank, scanned⟩ := assigns.scanNamed enough true gap_nil after rest
  rw [List.nil_append] at scanned
  rw [objectText, List.cons_append, List.append_assoc, List.append_assoc, List.singleton_append]
  simp only [Record.reader, skipGap_append before, skipGap_cons (show isGap '\x7b' = false from rfl),
    scanned, endObject_gap blank, closes]

/-- A record that is read from an object has all members read. -/
theorem assigns_of_accepts (exact : ∀ f ∈ r.fields, f.read.Exact) {bs : List Binding}
    (wellFormed : ∀ b ∈ bs, WellFormed b.item.text) {closing : Text} (after : Gap closing) {a : α}
    (accepts : Accepts (r.reader.scan (depth + 1)) (objectText bs closing) a) :
  ∃ draft, r.Assigns (fun f => Accepts (f.read.scan depth)) r.empty bs draft
  := by
  obtain ⟨gap, rest, before, -, read⟩ := accepts
  rw [objectText, List.cons_append, List.append_assoc, List.append_assoc] at read
  simp only [Record.reader, skipGap_append before,
    skipGap_cons (show isGap '\x7b' = false from rfl)] at read
  split at read
  case h_1 => cases read
  case h_2 draft rest' scanned =>
    obtain ⟨assigns, -⟩ := assigns_of_scanNamed exact wellFormed gap_nil after scanned
    exact ⟨draft, assigns⟩

end Record

/-! ### Whole texts -/

section Whole

variable {r : Reader α} {t before after : Text} {a : α}

theorem Reads.read (reads : Reads (r.scan maxDepth) t a) (leading : Gap before)
    (trailing : Gap after) :
  r.read (before ++ (t ++ after)) = .ok a
  := by
  simp only [Reader.read, reads before after leading trailing.stops_self, skipGap_gap trailing]

theorem Reader.Exact.accepts (exact : r.Exact) (wellFormed : WellFormed t) (leading : Gap before)
    (trailing : Gap after) (read : r.read (before ++ (t ++ after)) = .ok a) :
  Accepts (r.scan maxDepth) t a
  := by
  have ends := exact maxDepth wellFormed leading trailing.stops_self
  rw [Reader.read] at read
  split at read
  case h_1 => cases read
  case h_2 b rest scanned =>
    obtain rfl := ends _ scanned
    rw [skipGap_gap trailing] at read
    obtain rfl := Except.ok.inj read
    exact ⟨before, _, leading, trailing.stops_self, scanned⟩

end Whole

end Json

end NotebookEngine
