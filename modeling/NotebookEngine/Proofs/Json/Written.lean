import Mathlib.Data.List.Forall2
import Mathlib.Data.List.TakeWhile
import NotebookEngine.Proofs.Json.Strings

/-!
# Written values

A text writes a value if it holds the parts of the value in their order, with any gaps between them
(`Written`). A value without numbers is written by its compact form, and by its form over several
lines (`Legible.written_compact`, `Legible.written_pretty`). Whatever follows, it is read from each
text that writes it (`Written.scanValue`).
-/

namespace NotebookEngine

namespace Json

/-! ### Gaps -/

/-- A text of which nothing is seen between two parts of a JSON text. -/
def Gap (s : Text) : Prop :=
  ∀ c ∈ s, isGap c = true

theorem gap_nil :
  Gap []
  := nofun

theorem Gap.append {s t : Text} (left : Gap s) (right : Gap t) :
  Gap (s ++ t)
  := by
  intro c
  rw [List.mem_append]
  rintro (stands | stands)
  · apply left c stands
  · apply right c stands

theorem gap_newLine (depth : Nat) :
  Gap (newLine depth)
  := by
  unfold newLine
  intro c
  rw [List.mem_cons, List.mem_replicate]
  rintro (rfl | ⟨-, rfl⟩)
  · rfl
  · rfl

theorem skipGap_append {gap : Text} (blank : Gap gap) (s : Text) :
  skipGap (gap ++ s) = skipGap s
  := List.dropWhile_append_of_pos blank

theorem skipGap_gap {gap : Text} (blank : Gap gap) :
  skipGap gap = []
  := List.dropWhile_eq_nil_iff.mpr blank

theorem skipGap_cons {c : Char} (seen : isGap c = false) (s : Text) :
  skipGap (c :: s) = c :: s
  := by
  simp [skipGap, seen]

/-! ### Texts that write a value -/

/-- An element of a list as it stands in a text. -/
structure Element where
  before : Text
  value : Value
  text : Text
  after : Text

namespace Element

/-- The text of an element with the gaps around it. -/
def shape (e : Element) : Text :=
  e.before ++ (e.text ++ e.after)

/-- Only gaps stand around the element. -/
structure Gapped (e : Element) : Prop where
  before : Gap e.before
  after : Gap e.after

end Element

/-- A member of an object as it stands in a text. -/
structure Entry where
  before : Text
  name : Text
  between : Text
  /-- What stands after the colon. -/
  item : Element

namespace Entry

/-- The member that stands there. -/
def member (e : Entry) : Member :=
  (e.name, e.item.value)

/-- The text of a member with the gaps in it and around it. -/
def shape (e : Entry) : Text :=
  e.before ++ (string e.name ++ (e.between ++ ':' :: e.item.shape))

/-- Only gaps stand around the member and its parts. -/
structure Gapped (e : Entry) : Prop where
  before : Gap e.before
  between : Gap e.between
  item : e.item.Gapped

end Entry

/-- The texts with a comma before each but the first. -/
def commas : (first : Bool) → List Text → Text
  | _, [] => []
  | true, t :: ts => t ++ commas false ts
  | false, t :: ts => ',' :: (t ++ commas false ts)

/-- A text that writes a value, in which brackets open within each other at most so often. The value
has no numbers, and no character in its strings is escaped that need not be. -/
inductive Written : Nat → Value → Text → Prop
  | null {depth : Nat} : Written depth .null "null".toList
  | boolean {depth : Nat} {b : Bool} : Written depth (.boolean b) (renderBool b)
  | text {depth : Nat} {s : Text} : Written depth (.text s) (string s)
  | list {depth : Nat} {es : List Element} {closing : Text} (gapped : ∀ e ∈ es, e.Gapped)
    (elements : ∀ e ∈ es, Written depth e.value e.text) (blank : Gap closing) :
    Written (depth + 1) (.list (es.map Element.value))
      ('[' :: (commas true (es.map Element.shape) ++ (closing ++ [']'])))
  | object {depth : Nat} {es : List Entry} {closing : Text} (gapped : ∀ e ∈ es, e.Gapped)
    (members : ∀ e ∈ es, Written depth e.item.value e.item.text) (blank : Gap closing) :
    Written (depth + 1) (.object (es.map Entry.member))
      ('\x7b' :: (commas true (es.map Entry.shape) ++ (closing ++ ['\x7d'])))

/-- How the text of a value begins: with no gap and no closing bracket, and with the letter of `null`
only if it is that. -/
structure Begins (v : Value) (c : Char) : Prop where
  seen : isGap c = false
  noBracket : c ≠ ']'
  noNull : c = 'n' → v = .null

theorem Written.begins {depth : Nat} {v : Value} {t : Text} (written : Written depth v t) :
  ∃ c t', t = c :: t' ∧ Begins v c
  := by
  cases written with
  | null => exact ⟨'n', _, rfl, rfl, by decide, fun _ => rfl⟩
  | @boolean _ b =>
      cases b
      · exact ⟨'f', _, rfl, rfl, by decide, (absurd · (by decide))⟩
      · exact ⟨'t', _, rfl, rfl, by decide, (absurd · (by decide))⟩
  | text => exact ⟨'"', _, rfl, rfl, by decide, (absurd · (by decide))⟩
  | list => exact ⟨'[', _, rfl, rfl, by decide, (absurd · (by decide))⟩
  | object => exact ⟨'\x7b', _, rfl, rfl, by decide, (absurd · (by decide))⟩

/-! ### Walking through lists and objects -/

section Walk

variable {gap gap' : Text} (first : Bool)

/-- What comes before an element or a member: a gap, and a comma if it is not the first. -/
def lead (first : Bool) (gap s : Text) : Text :=
  gap ++ if first then s else ',' :: s

theorem append_commas (gap t : Text) (ts : List Text) (rest : Text) :
  gap ++ (commas first (t :: ts) ++ rest) = lead first gap (t ++ (commas false ts ++ rest))
  := by
  cases first <;> simp [commas, lead]

theorem nextElement?_lead {v : Value} {c : Char} (blank : Gap gap) (blank' : Gap gap')
    (begins : Begins v c) (s : Text) :
  nextElement? first (lead first gap (gap' ++ c :: s)) = .ok (some (c :: s))
  := by
  obtain ⟨seen, noBracket, -⟩ := begins
  cases first with
  | true =>
      simp only [lead, ↓reduceIte, nextElement?, skipGap_append blank, skipGap_append blank',
        skipGap_cons seen]
  | false =>
      simp only [lead, nextElement?, skipGap_append blank, Bool.false_eq_true, ↓reduceIte,
        skipGap_cons (show isGap ',' = false from rfl), Char.reduceEq, imp_self,
        skipGap_append blank', skipGap_cons seen]
      split <;> simp_all

theorem nextElement?_end (blank : Gap gap) (s : Text) :
  nextElement? first (gap ++ ']' :: s) = .ok none
  := by
  simp [nextElement?, skipGap_append blank, skipGap_cons, isGap]

theorem endList_gap (blank : Gap gap) (s : Text) :
  endList (gap ++ ']' :: s) = .ok s
  := by
  simp [endList, skipGap_append blank, skipGap_cons, isGap]

theorem nextKey?_lead (blank : Gap gap) (blank' : Gap gap') (name s : Text) :
  nextKey? first (lead first gap (gap' ++ (string name ++ s))) = .ok (some (name, s))
  := by
  have shape : string name ++ s = '"' :: (name.flatMap escapeChar ++ '"' :: s) := by
    simp [string]
  cases first <;>
    simp [lead, shape, nextKey?, skipGap_append blank, skipGap_append blank', skipGap_cons, isGap,
      scanString_string, Except.map]

theorem nextKey?_end (blank : Gap gap) (s : Text) :
  nextKey? first (gap ++ '\x7d' :: s) = .ok none
  := by
  simp [nextKey?, skipGap_append blank, skipGap_cons, isGap]

theorem scanColon_gap (blank : Gap gap) (s : Text) :
  scanColon (gap ++ ':' :: s) = .ok s
  := by
  simp [scanColon, skipGap_append blank, skipGap_cons, isGap]

theorem endObject_gap (blank : Gap gap) (s : Text) :
  endObject (gap ++ '\x7d' :: s) = .ok s
  := by
  simp [endObject, skipGap_append blank, skipGap_cons, isGap]

end Walk

/-! ### Reading items -/

/-- A scanner takes a text for something, whatever gap stands before it and whatever follows. -/
def Takes {α : Type} (item : Scan α) (t : Text) (a : α) : Prop :=
  ∀ gap rest, Gap gap → item (gap ++ (t ++ rest)) = .ok (a, rest)

section Items

variable {α : Type} {item : Scan α} {depth : Nat}

/-- The elements of a list are read up to the closing bracket. -/
theorem scanElements_written (first : Bool) {fuel : Nat} {es : List Element} {as : List α}
    (gapped : ∀ e ∈ es, e.Gapped) (written : ∀ e ∈ es, Written depth e.value e.text)
    (takes : List.Forall₂ (fun e a => Takes item e.text a) es as) (enough : es.length < fuel)
    {gap closing : Text} (blank : Gap gap) (blank' : Gap closing) (read : List α) (rest : Text) :
  scanElements item fuel first read
      (gap ++ (commas first (es.map Element.shape) ++ (closing ++ ']' :: rest)))
    = .ok (read.reverse ++ as, rest)
  := by
  induction takes generalizing first fuel gap read with
  | nil =>
      obtain ⟨n, rfl⟩ := Nat.exists_eq_add_one.mpr enough
      have blanks := blank.append blank'
      rw [List.map_nil, commas, List.nil_append, ← List.append_assoc, scanElements]
      simp only [nextElement?_end first blanks, endList_gap blanks, Except.map, List.append_nil]
  | @cons e a es as take takes ih =>
      obtain ⟨n, rfl⟩ := Nat.exists_eq_add_one.mpr (Nat.zero_lt_of_lt enough)
      rw [List.forall_mem_cons] at gapped written
      obtain ⟨⟨before, after⟩, gapped⟩ := gapped
      obtain ⟨c, t, begun, begins⟩ := written.1.begins
      have taken := take [] (e.after ++ (commas false (es.map Element.shape)
        ++ (closing ++ ']' :: rest))) gap_nil
      rw [List.map_cons, append_commas, Element.shape, List.append_assoc, List.append_assoc,
        scanElements]
      rw [begun, List.nil_append, List.cons_append] at taken
      rw [begun, List.cons_append, nextElement?_lead first blank before begins]
      simp only [taken]
      rw [ih false gapped written.2 (Nat.lt_of_succ_lt_succ enough) after, List.reverse_cons,
        List.append_assoc, List.singleton_append]

/-- What stands after a name and a colon is read. -/
theorem Entry.scanItem {e : Entry} {a : α} (gapped : e.Gapped) (take : Takes item e.item.text a)
    (rest : Text) :
  (scanColon (e.between ++ ':' :: (e.item.shape ++ rest)) >>= item) = .ok (a, e.item.after ++ rest)
  := by
  rw [scanColon_gap gapped.between]
  change item (e.item.shape ++ rest) = _
  rw [Element.shape, List.append_assoc, List.append_assoc]
  apply take _ _ gapped.item.before

/-- The members of an object are read up to the closing brace. -/
theorem scanMembers_written (first : Bool) {fuel : Nat} {es : List Entry} {as : List α}
    (gapped : ∀ e ∈ es, e.Gapped)
    (takes : List.Forall₂ (fun e a => Takes item e.item.text a) es as) (enough : es.length < fuel)
    {gap closing : Text} (blank : Gap gap) (blank' : Gap closing) (read : List (Text × α))
    (rest : Text) :
  scanMembers item fuel first read
      (gap ++ (commas first (es.map Entry.shape) ++ (closing ++ '\x7d' :: rest)))
    = .ok (read.reverse ++ (es.map Entry.name).zip as, rest)
  := by
  induction takes generalizing first fuel gap read with
  | nil =>
      obtain ⟨n, rfl⟩ := Nat.exists_eq_add_one.mpr enough
      have blanks := blank.append blank'
      rw [List.map_nil, commas, List.nil_append, ← List.append_assoc, scanMembers]
      simp only [nextKey?_end first blanks, endObject_gap blanks, Except.map, List.map_nil,
        List.zip_nil_left, List.append_nil]
  | @cons e a es as take takes ih =>
      obtain ⟨n, rfl⟩ := Nat.exists_eq_add_one.mpr (Nat.zero_lt_of_lt enough)
      rw [List.forall_mem_cons] at gapped
      obtain ⟨own, gapped⟩ := gapped
      rw [List.map_cons, append_commas, Entry.shape, List.append_assoc, List.append_assoc,
        List.append_assoc, List.cons_append, scanMembers, nextKey?_lead first blank own.before]
      simp only [e.scanItem own take]
      rw [ih false gapped (Nat.lt_of_succ_lt_succ enough) own.item.after, List.reverse_cons,
        List.append_assoc, List.singleton_append]
      rfl

end Items

/-- A text with something in it for each of its parts is no shorter than they are many. -/
theorem length_le_commas {α : Type} {shape : α → Text} {as : List α}
    (some : ∀ a ∈ as, shape a ≠ []) (first : Bool) :
  as.length ≤ (commas first (as.map shape)).length
  := by
  induction as generalizing first with
  | nil => apply Nat.zero_le
  | cons a as ih =>
      rw [List.forall_mem_cons] at some
      have own := List.length_pos_iff.mpr some.1
      have others := ih some.2 false
      cases first <;> simp only [List.map_cons, commas, List.length_cons, List.length_append] <;> omega

theorem Element.length_le {depth : Nat} {es : List Element}
    (written : ∀ e ∈ es, Written depth e.value e.text) :
  es.length ≤ (commas true (es.map shape)).length
  := by
  apply length_le_commas
  intro e stands
  obtain ⟨c, t, begun, -⟩ := (written e stands).begins
  simp [shape, begun]

theorem Entry.length_le (es : List Entry) :
  es.length ≤ (commas true (es.map shape)).length
  := by
  apply length_le_commas
  intro e _
  simp [shape]

/-- There is enough fuel for a list if there is some for each character of the text. -/
theorem scanElements_whole {α : Type} {item : Scan α} {depth : Nat} {es : List Element}
    {as : List α} {closing : Text} (gapped : ∀ e ∈ es, e.Gapped)
    (written : ∀ e ∈ es, Written depth e.value e.text)
    (takes : List.Forall₂ (fun e a => Takes item e.text a) es as) (blank : Gap closing) {s rest : Text}
    (shape : s = commas true (es.map Element.shape) ++ (closing ++ ']' :: rest)) :
  scanElements item (s.length + 1) true [] s = .ok (as, rest)
  := by
  have enough : es.length < s.length + 1 := by
    have length := Element.length_le written
    rw [shape, List.length_append]
    omega
  have read := scanElements_written true gapped written takes enough gap_nil blank [] rest
  rwa [List.nil_append, ← shape] at read

/-- A value is read from a text that writes it, whatever follows. -/
theorem Written.scanValue {depth : Nat} {v : Value} {t : Text} (written : Written depth v t) :
  Takes (scanValue depth) t v
  := by
  induction written with
  | null =>
      intro gap rest before
      simp [Json.scanValue, skipGap_append before, skipGap_cons, isGap, scanWord, Except.map]
  | @boolean _ b =>
      intro gap rest before
      cases b <;>
        simp [renderBool, Json.scanValue, skipGap_append before, skipGap_cons, isGap, scanWord,
          Except.map]
  | @text _ s =>
      intro gap rest before
      simp [string, Json.scanValue, skipGap_append before, skipGap_cons, isGap, scanString_string,
        Except.map]
  | @list depth es closing gapped elements blank ih =>
      intro gap rest before
      have takes : List.Forall₂ (fun e v => Takes (Json.scanValue depth) e.text v) es
          (es.map Element.value) := by
        rw [List.forall₂_map_right_iff, List.forall₂_same]
        exact ih
      rw [List.cons_append, List.append_assoc, List.append_assoc, List.singleton_append,
        Json.scanValue]
      simp only [skipGap_append before, skipGap_cons (show isGap '[' = false from rfl),
        scanElements_whole gapped elements takes blank rfl]
      rfl
  | @object depth es closing gapped members blank ih =>
      intro gap rest before
      have takes : List.Forall₂ (fun e v => Takes (Json.scanValue depth) e.item.text v) es
          (es.map fun e => e.item.value) := by
        rw [List.forall₂_map_right_iff, List.forall₂_same]
        exact ih
      have enough := Entry.length_le es
      rw [List.cons_append, List.append_assoc, List.append_assoc, List.singleton_append,
        Json.scanValue]
      simp only [skipGap_append before, skipGap_cons (show isGap '\x7b' = false from rfl)]
      rw [← List.nil_append (commas _ _ ++ _),
        scanMembers_written true gapped takes (by simp; omega) gap_nil blank, List.zip_map']
      rfl

end Json

end NotebookEngine
