import Mathlib.Algebra.Ring.Nat
import NotebookEngine.Config
import NotebookEngine.Proofs.Json.Bindings

/-!
# Settings in objects

What the value of a setting is in a text (`DenotesText`, `DenotesWord` and their like), and what the
members of an object make of settings all of which may be left out (`Schema.Replaced`): those that are
given are replaced, the others are as they were. An object of such members is read
(`Schema.Describes.reads`), and one that gives a setting twice is not (`Schema.of_accepts`).
-/

namespace NotebookEngine

namespace Json

variable {α : Type} {t : Text}

/-! ### Values of settings -/

/-- A string for a text. -/
def DenotesText (t s : Text) : Prop :=
  ∃ gs, t = literal gs ∧ spelled? gs = some s

/-- Null for nothing, or a string for a text. -/
def DenotesOptional (t : Text) : Option Text → Prop
  | none => t = "null".toList
  | some s => DenotesText t s

/-- A list of strings for a list of texts. -/
def DenotesTexts (t : Text) (ss : List Text) : Prop :=
  ∃ is closing, Gap closing ∧ t = listText is closing
    ∧ List.Forall₂ (fun i s => DenotesText i.text s) is ss

/-- The digits of a number of so many bits. -/
def DenotesWord (bits : Nat) (t : Text) (n : Nat) : Prop :=
  n < 2 ^ bits ∧ t = Text.ofNat n

theorem DenotesText.wellFormed {s : Text} (denotes : DenotesText t s) :
  WellFormed t
  := by
  obtain ⟨gs, rfl, -⟩ := denotes
  exact .string gs

theorem DenotesText.reads {s : Text} (denotes : DenotesText t s) (wanted : Text) (depth : Nat) :
  Reads ((Reader.text wanted).scan depth) t s
  := by
  obtain ⟨gs, rfl, spelled⟩ := denotes
  intro gap rest before stops
  rw [scan_text before, scanString_spelled spelled]

theorem DenotesOptional.reads {s : Option Text} (denotes : DenotesOptional t s) (wanted : Text)
    (depth : Nat) :
  Reads ((Reader.text wanted).optional.scan depth) t s
  := by
  intro gap rest before stops
  cases s with
  | none =>
      obtain rfl : t = "null".toList := denotes
      exact scan_null _ before depth rest
  | some s =>
      have denotes : DenotesText t s := denotes
      have present : t ≠ "null".toList := by
        obtain ⟨gs, rfl, -⟩ := denotes
        exact nofun
      have read := denotes.reads wanted depth [] rest gap_nil stops
      rw [List.nil_append] at read
      rw [scan_optional denotes.wellFormed present before, read, Except.map]

theorem Item.length_le {is : List Item} (wellFormed : ∀ i ∈ is, WellFormed i.text) :
  is.length ≤ (commas true (is.map shape)).length
  := by
  apply length_le_commas
  intro i among
  obtain ⟨c, s, begun, -⟩ := (wellFormed i among).tells
  simp [shape, begun]

/-- The elements of a list are read up to the closing bracket. -/
theorem scanElements_reads {item : Scan α} {is : List Item} {as : List α}
    (wellFormed : ∀ i ∈ is, WellFormed i.text)
    (reads : List.Forall₂ (fun i a => Reads item i.text a) is as) {fuel : Nat}
    (enough : is.length < fuel) (first : Bool) (read : List α) {gap closing : Text} (before : Gap gap)
    (after : Gap closing) (rest : Text) :
  scanElements item fuel first read
      (gap ++ (commas first (is.map Item.shape) ++ (closing ++ ']' :: rest)))
    = .ok (read.reverse ++ as, rest)
  := by
  induction reads generalizing fuel first read gap with
  | nil =>
      obtain ⟨fuel, rfl⟩ := Nat.exists_eq_add_one.mpr enough
      have gaps := before.append after
      rw [List.map_nil, commas, List.nil_append, ← List.append_assoc, scanElements]
      simp only [nextElement?_end first gaps, endList_gap gaps, Except.map, List.append_nil]
  | @cons i a is as own _ ih =>
      obtain ⟨fuel, rfl⟩ := Nat.exists_eq_add_one.mpr (Nat.zero_lt_of_lt enough)
      rw [List.forall_mem_cons] at wellFormed
      have stops := i.gapAfter.stops (stops_commas (is.map Item.shape) after (.inl rfl) rest)
      have taken := own [] _ gap_nil stops
      rw [List.nil_append] at taken
      rw [List.map_cons, append_commas, scanElements]
      simp only [nextElement?_item first before wellFormed.1, taken]
      rw [ih wellFormed.2 (Nat.lt_of_succ_lt_succ enough) false _ i.gapAfter, List.reverse_cons,
        List.append_assoc, List.singleton_append]

theorem Reads.list {r : Reader α} {depth : Nat} {is : List Item} {as : List α}
    (wellFormed : ∀ i ∈ is, WellFormed i.text)
    (reads : List.Forall₂ (fun i a => Reads (r.scan depth) i.text a) is as) {closing : Text}
    (after : Gap closing) :
  Reads (r.list.scan (depth + 1)) (listText is closing) as
  := by
  intro gap rest before stops
  have enough : is.length < (commas true (is.map Item.shape)
      ++ (closing ++ ']' :: rest)).length + 1 := by
    have length := Item.length_le wellFormed
    rw [List.length_append]
    omega
  have scanned := scanElements_reads wellFormed reads enough true [] gap_nil after rest
  rw [listText, List.cons_append, List.append_assoc, List.append_assoc, List.singleton_append]
  simp only [Reader.list, skipGap_append before, skipGap_cons (show isGap '[' = false from rfl)]
  exact scanned

theorem DenotesTexts.reads {ss : List Text} (denotes : DenotesTexts t ss) (wanted : Text)
    (depth : Nat) :
  Reads ((Reader.text wanted).list.scan (depth + 1)) t ss
  := by
  obtain ⟨is, closing, after, rfl, each⟩ := denotes
  have wellFormed : ∀ i ∈ is, WellFormed i.text := by
    clear after
    induction each with
    | nil => nofun
    | cons own _ ih => exact List.forall_mem_cons.mpr ⟨own.wellFormed, ih⟩
  exact .list wellFormed (each.imp fun i s denotes => denotes.reads wanted depth) after

theorem DenotesWord.reads {bits n : Nat} (denotes : DenotesWord bits t n) (atMost : bits ≤ 64)
    (depth : Nat) :
  Reads ((Reader.word bits).scan depth) t n
  := by
  obtain ⟨small, rfl⟩ := denotes
  intro gap rest before stops
  have below : n < 2 ^ 64 := small.trans_le (Nat.pow_le_pow_right (by decide) atMost)
  have fits : n ≤ maxWord := Nat.le_pred_of_lt below
  have scanned := scanNumber_ofNat fits stops
  have digital := digital_ofNat n
  have word : wordOf bits (.whole n) = .ok n := by
    have small : (n : Int) < 2 ^ bits := by exact_mod_cast small
    simp [wordOf, small]
  cases digits : Text.ofNat n with
  | nil => exact absurd digits (ofNat_ne_nil n)
  | cons d ds =>
      rw [digits, Digital, List.forall_mem_cons] at digital
      rw [digits, List.cons_append] at scanned
      rw [List.cons_append, scan_word_digit before depth bits digital.1, scanned]
      simp only [asWord, word]

end Json

open Json

/-! ### Schemata -/

/-- The settings of a type by their keys: what each is called, how it is read and what denotes it. -/
structure Schema (α Key : Type) where
  keys : List Key
  name : Key → String
  Value : Key → Type
  get : (k : Key) → α → Value k
  put : (k : Key) → Value k → α → α
  reader : (k : Key) → Reader (Value k)
  /-- A text denotes a value of the setting. -/
  Denotes : (k : Key) → Text → Value k → Prop
  /-- So many brackets open within each other in the value of a setting. -/
  levels : Nat
  complete : ∀ k, k ∈ keys
  distinct : Function.Injective name
  get_put : ∀ k v a, get k (put k v a) = v
  get_put_of_ne : ∀ {k l} v a, k ≠ l → get l (put k v a) = get l a
  ext : ∀ {a b}, (∀ k, get k a = get k b) → a = b
  measured : ∀ k, (reader k).Exact
  reads : ∀ {k t v}, Denotes k t v → ∀ depth, levels ≤ depth → Reads ((reader k).scan depth) t v

namespace Schema

variable {α Key : Type} (S : Schema α Key)

/-- The field of a setting. -/
def field (k : Key) : Json.Field (Settings α) :=
  setting (S.name k) (S.reader k) (S.put k)

/-- A setting is given in a draft. -/
def give (k : Key) (v : S.Value k) (draft : Settings α) : Settings α :=
  ⟨S.put k v draft.value, (S.name k).toList :: draft.given⟩

/-- The record of the settings. -/
def record (title : String) (defaults : α) : Record (Settings α) α :=
  settingsRecord title (S.keys.map S.field) defaults

/-- The member has the name of the setting. -/
def Names (b : Binding) (k : Key) : Prop :=
  b.Names (S.name k).toList

instance (b : Binding) (k : Key) : Decidable (S.Names b k) :=
  inferInstanceAs (Decidable (b.Names _))

/-- Some setting is given twice. -/
def Repeats (bs : List Binding) : Prop :=
  ∃ k, 1 < bs.countP fun b => S.Names b k

/-- The members give a value for a setting. -/
def Assigns (bs : List Binding) (k : Key) (v : S.Value k) : Prop :=
  ∃ b ∈ bs, S.Names b k ∧ S.Denotes k b.item.text v

/-- Members that give settings, each at most once and with a value that it can have, and anything
well-formed under other names. A name is one if it spells a text. -/
structure Typed (bs : List Binding) : Prop where
  named : ∀ b ∈ bs, ∃ name, b.Names name
  once : ¬S.Repeats bs
  known : ∀ b ∈ bs, ∀ k, S.Names b k → ∃ v, S.Denotes k b.item.text v
  unknown : ∀ b ∈ bs, (∀ k, ¬S.Names b k) → WellFormed b.item.text

/-- Settings are the defaults, with what the members give in the place of what they give. -/
structure Replaced (defaults : α) (bs : List Binding) (a : α) : Prop where
  given : ∀ {k v}, S.Assigns bs k v → S.get k a = v
  left : ∀ {k}, (∀ v, ¬S.Assigns bs k v) → S.get k a = S.get k defaults

/-- An object of typed members denotes the settings that they make of the defaults. -/
def Describes (defaults : α) (t : Text) (a : α) : Prop :=
  ∃ bs closing, Gap closing ∧ t = objectText bs closing ∧ S.Typed bs ∧ S.Replaced defaults bs a

/-- An object gives some setting twice. -/
def RepeatsIn (t : Text) : Prop :=
  ∃ bs closing, Gap closing ∧ t = objectText bs closing ∧ (∀ b ∈ bs, WellFormed b.item.text)
    ∧ S.Repeats bs

variable {S} {bs : List Binding} {defaults a a' : α} {depth : Nat}

/-! ### Names of settings -/

theorem Names.unique {b : Binding} {k l : Key} (names : S.Names b k) (names' : S.Names b l) :
  k = l
  := by
  apply S.distinct
  apply String.toList_inj.mp
  exact Option.some.inj (names.symm.trans names')

/-- Whatever has a field for its name has a setting for it. -/
theorem exists_key {title : String} {name : Text} {f : Json.Field (Settings α)}
    (known : (S.record title defaults).fields.find? (fun f => f.name = name) = some f) :
  ∃ k, f = S.field k ∧ name = (S.name k).toList
  := by
  obtain ⟨k, -, rfl⟩ := List.mem_map.mp (List.mem_of_find?_eq_some known)
  have same : (S.name k).toList = name := of_decide_eq_true (List.find?_some known :)
  exact ⟨k, rfl, same.symm⟩

/-- The name of a setting is that of its field. -/
theorem find?_field (title : String) (defaults : α) (k : Key) :
  (S.record title defaults).fields.find? (fun f => f.name = (S.name k).toList) = some (S.field k)
  := by
  cases found : (S.record title defaults).fields.find? (fun f => f.name = (S.name k).toList) with
  | none =>
      have among := List.mem_map_of_mem (f := S.field) (S.complete k)
      exact absurd (decide_eq_true rfl) (List.find?_eq_none.mp found _ among)
  | some f =>
      obtain ⟨l, rfl, same⟩ := exists_key found
      rw [S.distinct (String.toList_inj.mp same)]

/-- Other names are those of no field. -/
theorem find?_unknown (title : String) (defaults : α) {name : Text}
    (unknown : ∀ k, (S.name k).toList ≠ name) :
  (S.record title defaults).fields.find? (fun f => f.name = name) = none
  := by
  rw [List.find?_eq_none]
  intro f among
  obtain ⟨k, -, rfl⟩ := List.mem_map.mp among
  exact fun same => unknown k (of_decide_eq_true same)

theorem not_names {title : String} {b : Binding} {name : Text} (named : b.Names name)
    (unknown : (S.record title defaults).fields.find? (fun f => f.name = name) = none) (k : Key) :
  ¬S.Names b k
  := by
  intro names
  obtain rfl := Option.some.inj (named.symm.trans names)
  rw [find?_field] at unknown
  cases unknown

theorem field_read (k : Key) :
  (S.field k).read = (S.reader k).map (S.give k)
  := rfl

theorem exact_fields (title : String) (defaults : α) :
  ∀ f ∈ (S.record title defaults).fields, f.read.Exact
  := by
  intro f among
  obtain ⟨k, -, rfl⟩ := List.mem_map.mp among
  rw [field_read]
  exact (S.measured k).map _

theorem exact_reader (title : String) (defaults : α) :
  (S.record title defaults).reader.Exact
  := Record.exact_reader (exact_fields title defaults)

/-! ### Members of a typed object -/

/-- A value is denoted alone. -/
theorem denotes_unique {k : Key} {t : Text} {v v' : S.Value k} (denotes : S.Denotes k t v)
    (denotes' : S.Denotes k t v') :
  v = v'
  := (S.reads denotes S.levels le_rfl).unique (S.reads denotes' S.levels le_rfl)

/-- Settings are made of the defaults in one way. -/
theorem Replaced.unique (replaced : S.Replaced defaults bs a)
    (replaced' : S.Replaced defaults bs a') :
  a = a'
  := by
  apply S.ext
  intro k
  by_cases given : ∃ v, S.Assigns bs k v
  · obtain ⟨v, assigns⟩ := given
    rw [replaced.given assigns, replaced'.given assigns]
  · rw [not_exists] at given
    rw [replaced.left given, replaced'.left given]

/-- They depend on nothing but what the members give. -/
theorem Replaced.congr {bs' : List Binding} (replaced : S.Replaced defaults bs a)
    (same : ∀ k v, S.Assigns bs k v ↔ S.Assigns bs' k v) :
  S.Replaced defaults bs' a
  := by
  constructor
  · intro k v assigns
    exact replaced.given ((same k v).mpr assigns)
  · intro k left
    exact replaced.left fun v assigns => left v ((same k v).mp assigns)

/-- What is given first is not given again. -/
theorem Typed.apart {b : Binding} (typed : S.Typed (b :: bs)) {k : Key} (names : S.Names b k) :
  ∀ b' ∈ bs, ¬S.Names b' k
  := by
  intro b' among again
  apply typed.once
  refine ⟨k, ?_⟩
  have some : 0 < bs.countP fun b => S.Names b k :=
    List.countP_pos_iff.mpr ⟨b', among, decide_eq_true again⟩
  simp only [List.countP_cons, names, decide_true, ↓reduceIte]
  omega

theorem Typed.tail {b : Binding} (typed : S.Typed (b :: bs)) :
  S.Typed bs
  := by
  constructor
  case once =>
    rintro ⟨k, twice⟩
    refine typed.once ⟨k, twice.trans_le ?_⟩
    exact (List.sublist_cons_self b bs).countP_le
  case named => exact fun b' among => typed.named b' (List.mem_cons_of_mem b among)
  case known => exact fun b' among => typed.known b' (List.mem_cons_of_mem b among)
  case unknown => exact fun b' among => typed.unknown b' (List.mem_cons_of_mem b among)

theorem assigns_cons {b : Binding} {k : Key} {v : S.Value k} :
  S.Assigns (b :: bs) k v ↔ S.Names b k ∧ S.Denotes k b.item.text v ∨ S.Assigns bs k v
  := by
  simp only [Assigns, List.exists_mem_cons_iff]

/-- What is given first is what the others have for a default. -/
theorem Replaced.cons_known {b : Binding} {k : Key} {v : S.Value k} (names : S.Names b k)
    (denotes : S.Denotes k b.item.text v) (apart : ∀ b' ∈ bs, ¬S.Names b' k)
    (replaced : S.Replaced (S.put k v defaults) bs a) :
  S.Replaced defaults (b :: bs) a
  := by
  constructor
  · intro l w assigns
    rcases assigns_cons.mp assigns with ⟨names', denotes'⟩ | assigns
    · obtain rfl := names.unique names'
      have left : ∀ v, ¬S.Assigns bs k v := fun v ⟨b', among, again, _⟩ => apart b' among again
      rw [replaced.left left, S.get_put, denotes_unique denotes denotes']
    · exact replaced.given assigns
  · intro l left
    have other : k ≠ l := by
      rintro rfl
      exact left v (assigns_cons.mpr (.inl ⟨names, denotes⟩))
    rw [replaced.left fun w assigns => left w (assigns_cons.mpr (.inr assigns)),
      S.get_put_of_ne v defaults other]

theorem Replaced.cons_unknown {b : Binding} (unknown : ∀ k, ¬S.Names b k)
    (replaced : S.Replaced defaults bs a) :
  S.Replaced defaults (b :: bs) a
  := by
  apply replaced.congr
  intro k v
  rw [assigns_cons, or_iff_right fun first => unknown k first.1]

variable (S) in
/-- The draft has nothing yet of what the members give. -/
def Fresh (draft : Settings α) (bs : List Binding) : Prop :=
  ∀ b ∈ bs, ∀ k, S.Names b k → (S.name k).toList ∉ draft.given

/-- When a member is read, what the others give is still to come. -/
theorem Typed.fresh {b : Binding} (typed : S.Typed (b :: bs)) {k : Key} (names : S.Names b k)
    (v : S.Value k) {draft : Settings α} (fresh : S.Fresh draft bs) :
  S.Fresh (S.give k v draft) bs
  := by
  intro b' among l names' given
  rcases List.mem_cons.mp given with same | earlier
  · obtain rfl := S.distinct (String.toList_inj.mp same)
    exact typed.apart names b' among names'
  · exact fresh b' among l names' earlier

/-- The members of a typed object are read one after the other. -/
theorem Typed.exists_assigns (typed : S.Typed bs) (deep : S.levels ≤ depth) (title : String)
    (defaults : α) {draft : Settings α} (fresh : S.Fresh draft bs) :
  ∃ draft', (S.record title defaults).Assigns (fun f => Reads (f.read.scan depth)) draft bs draft'
    ∧ S.Replaced draft.value bs draft'.value
  := by
  induction bs generalizing draft with
  | nil => exact ⟨_, .nil, nofun, fun _ => rfl⟩
  | cons b bs ih =>
      rw [Fresh, List.forall_mem_cons] at fresh
      by_cases known : ∃ k, S.Names b k
      · obtain ⟨k, names⟩ := known
        obtain ⟨v, denotes⟩ := typed.known b List.mem_cons_self k names
        -- the value goes into the draft, and into the defaults that the other members replace
        obtain ⟨draft', assigns, replaced⟩ := ih typed.tail (typed.fresh names v fresh.2)
        refine ⟨draft', ?_, replaced.cons_known names denotes (typed.apart names)⟩
        have lacked : (S.field k).filled draft = false := by
          simpa [field, setting] using fresh.1 k names
        have read : Reads ((S.field k).read.scan depth) b.item.text (S.give k v) := by
          rw [field_read]
          exact (S.reads denotes depth deep).map _
        exact .known names (find?_field title defaults k) lacked read assigns
      · rw [not_exists] at known
        obtain ⟨name, named⟩ := typed.named b List.mem_cons_self
        obtain ⟨draft', assigns, replaced⟩ := ih typed.tail fresh.2
        refine ⟨draft', ?_, replaced.cons_unknown known⟩
        have other : ∀ k, (S.name k).toList ≠ name := by
          rintro k rfl
          exact known k named
        have wellFormed := typed.unknown b List.mem_cons_self known
        exact .unknown named (find?_unknown title defaults other) wellFormed assigns

/-- A typed object is read as the settings that it makes of the defaults. -/
theorem Typed.reads (typed : S.Typed bs) (deep : S.levels ≤ depth) (title : String) (defaults : α)
    {closing : Text} (after : Gap closing) :
  ∃ a, S.Replaced defaults bs a
    ∧ Reads ((S.record title defaults).reader.scan (depth + 1)) (objectText bs closing) a
  := by
  have fresh : S.Fresh ⟨defaults, []⟩ bs := fun _ _ _ _ => List.not_mem_nil
  obtain ⟨draft, assigns, replaced⟩ := typed.exists_assigns deep title defaults fresh
  exact ⟨draft.value, replaced, Record.Assigns.reads assigns rfl after⟩

theorem Describes.reads {t : Text} (describes : S.Describes defaults t a) (deep : S.levels ≤ depth)
    (title : String) :
  Reads ((S.record title defaults).reader.scan (depth + 1)) t a
  := by
  obtain ⟨bs, closing, after, rfl, typed, replaced⟩ := describes
  obtain ⟨a', replaced', reads⟩ := typed.reads deep title defaults after
  rwa [replaced.unique replaced']

/-! ### Settings that are given twice -/

/-- Members that are read give no setting twice, and none that was given before. -/
theorem countP_le_one (title : String) (defaults : α) {draft draft' : Settings α}
    (assigns :
      (S.record title defaults).Assigns (fun f => Accepts (f.read.scan depth)) draft bs draft')
    (k : Key) :
  (bs.countP fun b => S.Names b k) + (if (S.name k).toList ∈ draft.given then 1 else 0) ≤ 1
  := by
  induction assigns with
  | nil => split <;> simp
  | @unknown _ _ b bs name named unknown _ _ ih =>
      simp only [List.countP_cons, not_names named unknown k, decide_false, Bool.false_eq_true,
        ↓reduceIte]
      exact ih
  | @known draft _ b bs name f set named known lacked read _ ih =>
      obtain ⟨l, rfl, rfl⟩ := exists_key known
      rw [field_read] at read
      obtain ⟨v, rfl, -⟩ := read.of_map
      by_cases same : l = k
      · obtain rfl := same
        have names : S.Names b l := named
        -- the member counts here, and its name among those given for the others
        have lacked : (S.name l).toList ∉ draft.given := by
          simpa [field, setting] using lacked
        simp only [give, List.mem_cons_self, ↓reduceIte] at ih
        simp only [List.countP_cons, names, decide_true, lacked, ↓reduceIte]
        exact ih
      · have other : ¬S.Names b k := fun names => same (Names.unique named names)
        have apart : (S.name k).toList ≠ (S.name l).toList :=
          fun equal => same (S.distinct (String.toList_inj.mp equal)).symm
        simp only [give, List.mem_cons, apart, false_or] at ih
        simp only [List.countP_cons, other, decide_false, Bool.false_eq_true, ↓reduceIte]
        exact ih

theorem once_of_assigns (title : String) {draft : Settings α}
    (assigns : (S.record title defaults).Assigns (fun f => Accepts (f.read.scan depth))
      ⟨defaults, []⟩ bs draft) :
  ¬S.Repeats bs
  := by
  rintro ⟨k, twice⟩
  have once := countP_le_one title defaults assigns k
  rw [if_neg List.not_mem_nil, Nat.add_zero] at once
  exact absurd twice once.not_gt

/-- What is read for a setting is read from each member that gives it. -/
theorem accepts_of_assigns (title : String) (defaults : α) {draft draft' : Settings α}
    (assigns :
      (S.record title defaults).Assigns (fun f => Accepts (f.read.scan depth)) draft bs draft') :
  ∀ b ∈ bs, ∀ k, S.Names b k → ∃ v, Accepts ((S.reader k).scan depth) b.item.text v
  := by
  induction assigns with
  | nil => nofun
  | unknown named unknown _ _ ih =>
      rw [List.forall_mem_cons]
      exact ⟨fun k names => absurd names (not_names named unknown k), ih⟩
  | known named known _ read _ ih =>
      obtain ⟨l, rfl, rfl⟩ := exists_key known
      rw [List.forall_mem_cons]
      refine ⟨?_, ih⟩
      intro k names
      obtain rfl := Names.unique named names
      rw [field_read] at read
      obtain ⟨v, -, accepts⟩ := read.of_map
      exact ⟨v, accepts⟩

/-- An object that is read gives no setting twice, and the value of each that it gives is read. -/
theorem of_accepts {title : String} {closing : Text} (wellFormed : ∀ b ∈ bs, WellFormed b.item.text)
    (after : Gap closing) (accepts :
      Accepts ((S.record title defaults).reader.scan (depth + 1)) (objectText bs closing) a) :
  ¬S.Repeats bs
    ∧ ∀ b ∈ bs, ∀ k, S.Names b k → ∃ v, Accepts ((S.reader k).scan depth) b.item.text v
  := by
  obtain ⟨draft, assigns⟩ :=
    Record.assigns_of_accepts (exact_fields title defaults) wellFormed after accepts
  exact ⟨once_of_assigns title assigns, accepts_of_assigns title defaults assigns⟩

theorem RepeatsIn.refused {t : Text} (repeats : S.RepeatsIn t) {title : String}
    (accepts : Accepts ((S.record title defaults).reader.scan (depth + 1)) t a) :
  False
  := by
  obtain ⟨bs, closing, after, rfl, wellFormed, twice⟩ := repeats
  exact (of_accepts wellFormed after accepts).1 twice

/-! ### Order -/

/-- What members give does not depend on their order. -/
theorem assigns_perm {bs' : List Binding} (perm : bs.Perm bs') (k : Key) (v : S.Value k) :
  S.Assigns bs k v ↔ S.Assigns bs' k v
  := by
  simp only [Assigns, perm.mem_iff]

theorem Typed.perm {bs' : List Binding} (typed : S.Typed bs) (perm : bs.Perm bs') :
  S.Typed bs'
  := by
  constructor
  case named => exact fun b among => typed.named b (perm.mem_iff.mpr among)
  case once =>
    rintro ⟨k, twice⟩
    exact typed.once ⟨k, (perm.countP_eq _).symm ▸ twice⟩
  case known => exact fun b among => typed.known b (perm.mem_iff.mpr among)
  case unknown => exact fun b among => typed.unknown b (perm.mem_iff.mpr among)

/-! ### Objects member by member -/

theorem typed_nil :
  S.Typed []
  := by
  constructor
  case once => exact fun ⟨_, twice⟩ => absurd twice (by simp)
  all_goals exact nofun

theorem Typed.cons_known {b : Binding} {k : Key} {v : S.Value k} (names : S.Names b k)
    (denotes : S.Denotes k b.item.text v) (apart : ∀ b' ∈ bs, ¬S.Names b' k) (typed : S.Typed bs) :
  S.Typed (b :: bs)
  := by
  constructor
  case named => exact List.forall_mem_cons.mpr ⟨⟨_, names⟩, typed.named⟩
  case once =>
    rintro ⟨l, twice⟩
    by_cases names' : S.Names b l
    · obtain rfl := names.unique names'
      have none : (bs.countP fun b => S.Names b k) = 0 := by simpa [List.countP_eq_zero] using apart
      simp [names, none] at twice
    · exact typed.once ⟨l, by simpa [List.countP_cons, names'] using twice⟩
  case known =>
    refine List.forall_mem_cons.mpr ⟨?_, typed.known⟩
    intro l names'
    obtain rfl := names.unique names'
    exact ⟨v, denotes⟩
  case unknown => exact List.forall_mem_cons.mpr ⟨fun other => absurd names (other k), typed.unknown⟩

theorem Typed.cons_unknown {b : Binding} {name : Text} (named : b.Names name)
    (unknown : ∀ k, ¬S.Names b k) (wellFormed : WellFormed b.item.text) (typed : S.Typed bs) :
  S.Typed (b :: bs)
  := by
  constructor
  case named => exact List.forall_mem_cons.mpr ⟨⟨_, named⟩, typed.named⟩
  case once =>
    rintro ⟨k, twice⟩
    exact typed.once ⟨k, by simpa [List.countP_cons, unknown k] using twice⟩
  case known =>
    exact List.forall_mem_cons.mpr ⟨fun k names => absurd names (unknown k), typed.known⟩
  case unknown => exact List.forall_mem_cons.mpr ⟨fun _ => wellFormed, typed.unknown⟩

/-- An object with one member gives this and nothing else. -/
theorem describes_singleton {b : Binding} {k : Key} {v : S.Value k} (names : S.Names b k)
    (denotes : S.Denotes k b.item.text v) {closing : Text} (after : Gap closing) (defaults : α) :
  S.Describes defaults (objectText [b] closing) (S.put k v defaults)
  := by
  have replaced : S.Replaced (S.put k v defaults) [] (S.put k v defaults) := ⟨nofun, fun _ => rfl⟩
  exact ⟨[b], closing, after, rfl, typed_nil.cons_known names denotes nofun,
    replaced.cons_known names denotes nofun⟩

end Schema

end NotebookEngine
