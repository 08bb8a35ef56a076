import NotebookEngine.Proofs.Json.Printed

/-!
# Understanding

A typed reader understands a JSON value as something if it reads that from every text that writes
the value, and takes it from the value itself (`Reader.Understands`). So do the readers of texts,
options, lists, names and records, if the readers of their parts do; the members of a record have to
fill it one by one (`Record.Fills`).
-/

namespace NotebookEngine

namespace Json

/-! ### Sorting members -/

theorem sortedList_eq (vs : List Value) :
  Value.sortedList vs = vs.map Value.sorted
  := by
  induction vs with
  | nil => rfl
  | cons v vs ih => rw [Value.sortedList, ih, List.map_cons]

/-- The member with the members of all objects in it sorted. -/
def sortedMember (m : Member) : Member :=
  (m.1, m.2.sorted)

theorem sortedMembers_eq (ms : List Member) :
  Value.sortedMembers ms = ms.map sortedMember
  := by
  induction ms with
  | nil => rfl
  | cons m ms ih =>
      rw [Value.sortedMembers, ih]
      rfl

/-- The order of members depends on their names only. -/
theorem insertMember_map (m : Member) (ms : List Member) :
  insertMember (sortedMember m) (ms.map sortedMember) = (insertMember m ms).map sortedMember
  := by
  induction ms with
  | nil => rfl
  | cons n ms ih =>
      simp only [List.map_cons, insertMember, ih]
      change (if m.1 = n.1 then _ else if nameLt m.1 n.1 then _ else _) = _
      split
      · rfl
      · split <;> rfl

theorem sortMembers_map (ms : List Member) :
  sortMembers (ms.map sortedMember) = (sortMembers ms).map sortedMember
  := by
  have general (sorted : List Member) :
      (ms.map sortedMember).foldl (fun sorted m => insertMember m sorted) (sorted.map sortedMember)
        = (ms.foldl (fun sorted m => insertMember m sorted) sorted).map sortedMember := by
    induction ms generalizing sorted with
    | nil => rfl
    | cons m ms ih => rw [List.map_cons, List.foldl_cons, List.foldl_cons, insertMember_map, ih]
  exact general []

theorem sorted_eq_null_iff {v : Value} :
  v.sorted = .null ↔ v = .null
  := by
  cases v <;> simp [Value.sorted]

/-! ### Understanding -/

/-- A reader reads something from every text that writes a value, and takes it from the value. -/
structure Reader.Understands {α : Type} (r : Reader α) (depth : Nat) (v : Value) (a : α) : Prop where
  scan : ∀ t, Written depth v t → Takes (r.scan depth) t a
  take : ∀ m, r.take m v.sorted = .ok a

namespace Reader

variable {α β : Type} {r : Reader α} {depth : Nat} {v : Value} {a : α}

theorem Understands.map (understands : r.Understands depth v a) (f : α → β) :
  (r.map f).Understands depth v (f a)
  := by
  constructor
  · intro t written gap rest before
    simp only [Reader.map, understands.scan t written gap rest before, Except.map]
  · intro m
    simp only [Reader.map, understands.take m, Except.map]

theorem understands_text (wanted s : Text) :
  (Reader.text wanted).Understands depth (.text s) s
  := by
  constructor
  · rintro _ ⟨⟩ gap rest before
    simp [Reader.text, string, skipGap_append before, skipGap_cons, isGap, scanString_string]
  · intro m
    rfl

theorem understands_none (r : Reader α) :
  r.optional.Understands depth .null none
  := by
  constructor
  · rintro _ ⟨⟩ gap rest before
    simp [Reader.optional, skipGap_append before, skipGap_cons, isGap, scanWord, Except.map]
  · intro m
    rfl

theorem Understands.optional (understands : r.Understands depth v a) (present : v ≠ .null) :
  r.optional.Understands depth v (some a)
  := by
  constructor
  · intro t written gap rest before
    obtain ⟨c, t', rfl, begins⟩ := written.begins
    have scanned := understands.scan _ written [] rest gap_nil
    rw [List.nil_append, List.cons_append] at scanned
    simp only [Reader.optional, skipGap_append before, List.cons_append, skipGap_cons begins.seen]
    split
    case h_1 same =>
      obtain ⟨rfl, -⟩ := List.cons.inj same
      exact absurd (begins.noNull rfl) present
    case h_2 => rw [scanned, Except.map]
  · intro m
    simp only [Reader.optional]
    split
    case h_1 same => exact absurd (sorted_eq_null_iff.mp same) present
    case h_2 => rw [understands.take m, Except.map]

/-- Elements that are understood are read as what they are understood as. -/
theorem takes_of_understands {es : List Element} {as : List α}
    (understands : List.Forall₂ (fun e a => r.Understands depth e.value a) es as)
    (written : ∀ e ∈ es, Written depth e.value e.text) :
  List.Forall₂ (fun e a => Takes (r.scan depth) e.text a) es as
  := by
  induction understands with
  | nil => exact .nil
  | cons own _ ih =>
      rw [List.forall_mem_cons] at written
      exact .cons (own.scan _ written.1) (ih written.2)

/-- A list is understood element by element. -/
theorem understands_list {vs : List Value} {as : List α}
    (understands : List.Forall₂ (r.Understands depth) vs as) :
  r.list.Understands (depth + 1) (.list vs) as
  := by
  constructor
  · rintro _ (_ | _ | _ | @⟨_, es, closing, gapped, elements, blank⟩) gap rest before
    have takes := takes_of_understands (List.forall₂_map_left_iff.mp understands) elements
    rw [List.cons_append, List.append_assoc, List.append_assoc, List.singleton_append]
    simp only [Reader.list, skipGap_append before, skipGap_cons (show isGap '[' = false from rfl),
      scanElements_whole gapped elements takes blank rfl]
  · intro m
    simp only [Reader.list, Value.sorted, sortedList_eq]
    induction understands with
    | nil => rfl
    | cons own _ ih => simp only [List.map_cons, List.mapM_cons, own.take m, ih]; rfl

/-- A name is understood as what it stands for. -/
theorem understands_choice {choices : List (Text × α)} {name : Text}
    (stands : named choices name = .ok a) :
  (Reader.choice choices).Understands depth (.text name) a
  := by
  constructor
  · rintro _ ⟨⟩ gap rest before
    simp [Reader.choice, string, skipGap_append before, skipGap_cons, isGap, scanName,
      scanString_string, stands]
  · intro m
    exact stands

end Reader

/-! ### Records -/

namespace Record

variable {σ α : Type} {r : Record σ α} {depth : Nat} {draft draft' : σ}

/-- Members fill a draft one after the other: each has the name of a field that the draft lacks, and
its value is understood. -/
inductive Fills (r : Record σ α) (depth : Nat) : σ → List Member → σ → Prop
  | nil {draft : σ} : Fills r depth draft [] draft
  | cons {draft draft' : σ} {name : Text} {v : Value} {ms : List Member} {f : Field σ} {set : σ → σ}
    (known : r.fields.find? (fun f => f.name = name) = some f) (lacked : f.filled draft = false)
    (understands : f.read.Understands depth v set) (fills : Fills r depth (set draft) ms draft') :
    Fills r depth draft ((name, v) :: ms) draft'

/-- The members of an object are read up to the closing brace. -/
theorem Fills.scanNamed (first : Bool) {fuel : Nat} {es : List Entry}
    (fills : r.Fills depth draft (es.map Entry.member) draft') (gapped : ∀ e ∈ es, e.Gapped)
    (written : ∀ e ∈ es, Written depth e.item.value e.item.text) (enough : es.length < fuel)
    {gap closing : Text} (blank : Gap gap) (blank' : Gap closing) (rest : Text) :
  ∃ gap', Gap gap' ∧ r.scanNamed depth fuel first draft
      (gap ++ (commas first (es.map Entry.shape) ++ (closing ++ '\x7d' :: rest)))
    = .ok (draft', gap' ++ '\x7d' :: rest)
  := by
  induction es generalizing first fuel gap draft with
  | nil =>
      obtain ⟨n, rfl⟩ := Nat.exists_eq_add_one.mpr enough
      cases fills
      have blanks := blank.append blank'
      use gap ++ closing, blanks
      rw [List.map_nil, commas, List.nil_append, ← List.append_assoc, Record.scanNamed]
      simp only [nextKey?_end first blanks]
  | cons e es ih =>
      obtain ⟨n, rfl⟩ := Nat.exists_eq_add_one.mpr (Nat.zero_lt_of_lt enough)
      rw [List.forall_mem_cons] at gapped written
      obtain ⟨own, gapped⟩ := gapped
      rw [List.map_cons] at fills
      cases fills with
      | @cons _ _ _ _ _ f set known lacked understands fills =>
          obtain ⟨gap', blanks, scanned⟩ := ih false fills gapped written.2
            (Nat.lt_of_succ_lt_succ enough) own.item.after
          use gap', blanks
          have take := e.scanItem own (understands.scan _ written.1)
          rw [List.map_cons, append_commas, Entry.shape, List.append_assoc, List.append_assoc,
            List.append_assoc, List.cons_append, Record.scanNamed,
            nextKey?_lead first blank own.before]
          simp only [known, lacked, take]
          exact scanned

/-- So are they taken from the object. -/
theorem Fills.takeNamed {ms : List Member} (fills : r.Fills depth draft ms draft') (m : Manner) :
  r.takeNamed m draft (ms.map sortedMember) = .ok draft'
  := by
  induction fills with
  | nil => rfl
  | cons known lacked understands _ ih =>
      rw [List.map_cons, sortedMember, Record.takeNamed]
      simp only [known, lacked, understands.take m]
      exact ih

/-- A record is understood if its members fill it, in the order in which they stand and in that of
their names. -/
theorem understands (draft : σ) {ms : List Member} {a : α} (fills : r.Fills depth r.empty ms draft)
    (sorted : r.Fills depth r.empty (sortMembers ms) draft) (closes : r.close draft = .ok a) :
  r.reader.Understands (depth + 1) (.object ms) a
  := by
  constructor
  · rintro _ (_ | _ | _ | _ | @⟨_, es, closing, gapped, members, blank⟩) gap rest before
    have length := Entry.length_le es
    have enough : es.length
        < (commas true (es.map Entry.shape) ++ (closing ++ '\x7d' :: rest)).length + 1 := by
      rw [List.length_append]
      omega
    rw [List.cons_append, List.append_assoc, List.append_assoc, List.singleton_append]
    obtain ⟨gap', blank', scanned⟩ :=
      fills.scanNamed true gapped members enough gap_nil blank rest
    rw [List.nil_append] at scanned
    simp only [Record.reader, skipGap_append before,
      skipGap_cons (show isGap '\x7b' = false from rfl), scanned, endObject_gap blank', closes]
  · intro m
    simp only [Record.reader, Value.sorted, Record.take, sortedMembers_eq, sortMembers_map,
      sorted.takeNamed m]
    exact closes

end Record

/-! ### Whole texts -/

/-- A reader has something from a text that writes a value and holds nothing else but a gap, if it
understands the value so. -/
theorem Reader.Understands.read {α : Type} {r : Reader α} {v : Value} {a : α}
    (understands : r.Understands maxDepth v a) {t gap : Text} (written : Written maxDepth v t)
    (blank : Gap gap) :
  r.read (t ++ gap) = .ok a
  := by
  have scanned := understands.scan t written [] gap gap_nil
  rw [List.nil_append] at scanned
  simp only [Reader.read, scanned, skipGap_gap blank]

/-- So it has from the value. -/
theorem Reader.Understands.fit {α : Type} {r : Reader α} {depth : Nat} {v : Value} {a : α}
    (understands : r.Understands depth v a) :
  r.fit v = .ok a
  := by
  simp only [Reader.fit, understands.take]

end Json

end NotebookEngine
