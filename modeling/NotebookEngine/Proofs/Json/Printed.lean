import NotebookEngine.Json.Typed
import NotebookEngine.Proofs.Json.Written

/-!
# Reading what is printed

A value without numbers (`Legible`) is written by its compact form and by its form over several
lines (`Legible.written_compact`, `Legible.written_pretty`), so it is read back from both if it does
not nest too deep. Its compact form shows none of the control characters (`Legible.visible`).
-/

namespace NotebookEngine

namespace Json

/-- A value without numbers, in which brackets open within each other at most so often. -/
inductive Legible : Nat → Value → Prop
  | null {depth : Nat} : Legible depth .null
  | boolean {depth : Nat} {b : Bool} : Legible depth (.boolean b)
  | text {depth : Nat} {s : Text} : Legible depth (.text s)
  | list {depth : Nat} {vs : List Value} (elements : ∀ v ∈ vs, Legible depth v) :
    Legible (depth + 1) (.list vs)
  | object {depth : Nat} {ms : List Member} (members : ∀ m ∈ ms, Legible depth m.2) :
    Legible (depth + 1) (.object ms)

/-! ### Lists and objects that are written evenly -/

/-- A list is written when its elements are, the same gap before each of them. -/
theorem Written.evenList {depth : Nat} {vs : List Value} {print : Value → Text}
    (elements : ∀ v ∈ vs, Written depth v (print v)) {before closing : Text} (blank : Gap before)
    (blank' : Gap closing) :
  Written (depth + 1) (.list vs)
    ('[' :: (commas true (vs.map fun v => before ++ print v) ++ (closing ++ [']'])))
  := by
  have written := @Written.list depth (vs.map fun v => ⟨before, v, print v, []⟩) closing
    (List.forall_mem_map.mpr fun _ _ => ⟨blank, gap_nil⟩) (List.forall_mem_map.mpr elements) blank'
  simpa [Function.comp_def, Element.shape] using written

/-- A member of an object that is written evenly. -/
def evenMember (print : Value → Text) (before space : Text) (m : Member) : Text :=
  before ++ (string m.1 ++ ':' :: (space ++ print m.2))

/-- So is an object, the same gap before each member and after each colon. -/
theorem Written.evenObject {depth : Nat} {ms : List Member} {print : Value → Text}
    (members : ∀ m ∈ ms, Written depth m.2 (print m.2)) {before space closing : Text}
    (blank : Gap before) (blank' : Gap space) (blank'' : Gap closing) :
  Written (depth + 1) (.object ms)
    ('\x7b' :: (commas true (ms.map (evenMember print before space)) ++ (closing ++ ['\x7d'])))
  := by
  have written := @Written.object depth
    (ms.map fun m => ⟨before, m.1, [], ⟨space, m.2, print m.2, []⟩⟩) closing
    (List.forall_mem_map.mpr fun _ _ => ⟨blank, gap_nil, blank', gap_nil⟩)
    (List.forall_mem_map.mpr members) blank''
  have shape : evenMember print before space
      = fun m => before ++ (string m.1 ++ ':' :: (space ++ print m.2)) := rfl
  simpa [Function.comp_def, Entry.shape, Element.shape, Entry.member, shape] using written

theorem commas_false {ts : List Text} (some : ts ≠ []) :
  commas false ts = ',' :: commas true ts
  := by
  obtain ⟨t, ts, rfl⟩ := List.exists_cons_of_ne_nil some
  rfl

/-! ### The compact form -/

theorem compactElements_eq (vs : List Value) :
  Value.compactElements vs = commas true (vs.map Value.compact)
  := by
  induction vs with
  | nil => rfl
  | cons v vs ih =>
      cases vs with
      | nil => simp [Value.compactElements, commas]
      | cons w vs =>
          have rest : (w :: vs).map Value.compact ≠ [] := by simp
          rw [Value.compactElements, ih, List.map_cons (a := v), commas, commas_false rest]

theorem compactMembers_eq (ms : List Member) :
  Value.compactMembers ms = commas true (ms.map (evenMember Value.compact [] []))
  := by
  induction ms with
  | nil => rfl
  | cons m ms ih =>
      cases ms with
      | nil => simp [Value.compactMembers, commas, evenMember]
      | cons n ms =>
          have rest : (n :: ms).map (evenMember Value.compact [] []) ≠ [] := by simp
          rw [Value.compactMembers, ih, List.map_cons (a := m), commas, commas_false rest]
          simp [evenMember]

/-- The compact form of a value writes it. -/
theorem Legible.written_compact {depth : Nat} {v : Value} (legible : Legible depth v) :
  Written depth v v.compact
  := by
  induction legible with
  | null => exact .null
  | boolean => exact .boolean
  | text => exact .text
  | list _ ih =>
      rw [Value.compact, compactElements_eq]
      exact .evenList ih gap_nil gap_nil
  | object _ ih =>
      rw [Value.compact, compactMembers_eq]
      exact .evenObject ih gap_nil gap_nil gap_nil

/-! ### The form over several lines -/

theorem prettyElements_eq (line : Nat) {vs : List Value} (some : vs ≠ []) :
  newLine line ++ Value.prettyElements line vs
    = commas true (vs.map fun v => newLine line ++ v.prettyAt line)
  := by
  induction vs with
  | nil => contradiction
  | cons v vs ih =>
      cases vs with
      | nil => simp [Value.prettyElements, commas]
      | cons w vs =>
          rw [List.map_cons, commas, commas_false (by simp), ← ih (by simp), Value.prettyElements]
          simp

theorem prettyMembers_eq (line : Nat) {ms : List Member} (some : ms ≠ []) :
  newLine line ++ Value.prettyMembers line ms
    = commas true (ms.map (evenMember (Value.prettyAt line) (newLine line) [' ']))
  := by
  induction ms with
  | nil => contradiction
  | cons m ms ih =>
      cases ms with
      | nil => simp [Value.prettyMembers, commas, evenMember]
      | cons n ms =>
          rw [List.map_cons, commas, commas_false (by simp), ← ih (by simp), Value.prettyMembers]
          simp [evenMember]

/-- The form of a value over several lines writes it, wherever it begins. -/
theorem Legible.written_prettyAt {depth : Nat} {v : Value} (legible : Legible depth v) (line : Nat) :
  Written depth v (v.prettyAt line)
  := by
  have space : Gap [' '] := List.forall_mem_singleton.mpr rfl
  induction legible generalizing line with
  | null => exact .null
  | boolean => exact .boolean
  | text => exact .text
  | @list depth vs _ ih =>
      cases vs with
      | nil => exact @Written.list depth [] [] nofun nofun gap_nil
      | cons v vs =>
          have written := Written.evenList (fun w stands => ih w stands (line + 1))
            (gap_newLine (line + 1)) (gap_newLine line)
          rw [← prettyElements_eq _ (by simp)] at written
          simpa [Value.prettyAt] using written
  | @object depth ms _ ih =>
      cases ms with
      | nil => exact @Written.object depth [] [] nofun nofun gap_nil
      | cons m ms =>
          have written := Written.evenObject (fun n stands => ih n stands (line + 1))
            (gap_newLine (line + 1)) space (gap_newLine line)
          rw [← prettyMembers_eq _ (by simp)] at written
          simpa [Value.prettyAt] using written

theorem Legible.written_pretty {depth : Nat} {v : Value} (legible : Legible depth v) :
  Written depth v v.pretty
  := legible.written_prettyAt 0

/-! ### Whole texts -/

/-- A text that writes a value, and holds nothing else but a gap, holds that value. -/
theorem Written.read {v : Value} {t : Text} (written : Written maxDepth v t) {gap : Text}
    (blank : Gap gap) :
  Reader.value.read (t ++ gap) = .ok v
  := by
  have scanned := written.scanValue [] gap gap_nil
  rw [List.nil_append] at scanned
  simp only [Reader.read, Reader.value, scanned, skipGap_gap blank]

/-- So does the compact form of a value. -/
theorem Legible.read_compact {v : Value} (legible : Legible maxDepth v) {gap : Text}
    (blank : ∀ c ∈ gap, isGap c = true) :
  Reader.value.read (v.compact ++ gap) = .ok v
  := legible.written_compact.read blank

/-! ### Control characters -/

theorem visible_commas {ts : List Text} (visible : ∀ t ∈ ts, Visible t) (first : Bool) :
  Visible (commas first ts)
  := by
  induction ts generalizing first with
  | nil => cases first <;> nofun
  | cons t ts ih =>
      rw [List.forall_mem_cons] at visible
      have all := visible.1.append (ih visible.2 false)
      cases first with
      | true => apply all
      | false => apply Visible.cons (by decide) all

/-- The compact form of a value shows no control characters. -/
theorem Legible.visible {depth : Nat} {v : Value} (legible : Legible depth v) :
  Visible v.compact
  := by
  have closes (bracket : Char) (shown : 0x20 ≤ bracket.toNat) : Visible [bracket] :=
    Visible.cons shown nofun
  induction legible with
  | null => decide
  | @boolean _ b => cases b <;> decide
  | @text _ s => apply visible_string
  | list _ ih =>
      rw [Value.compact, compactElements_eq]
      apply Visible.append _ (closes ']' (by decide))
      apply Visible.cons (by decide)
      apply visible_commas
      rw [List.forall_mem_map]
      apply ih
  | object _ ih =>
      rw [Value.compact, compactMembers_eq]
      apply Visible.append _ (closes '\x7d' (by decide))
      apply Visible.cons (by decide)
      apply visible_commas
      rw [List.forall_mem_map]
      intro m stands
      apply (visible_string m.1).append
      apply Visible.cons (by decide) (ih m stands)

end Json

end NotebookEngine
