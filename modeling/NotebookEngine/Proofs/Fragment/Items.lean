import NotebookEngine.Proofs.Fragment.Blocks

/-!
# One item before statements

A fragment of one item, with statements after it, is recovered if and only if the first line of the item
that is in no attribute begins an item, and no attribute is still open after the last line of the item
(`split_item_iff`). The splitting takes an attribute to go on to the first line that ends with its
bracket.
-/

namespace NotebookEngine

namespace Fragment

/-! ### Fragments by their lines -/

/-- The parts of a fragment without an entry point, by the lines of each. -/
def Parts.ofLines (definitions body : List Text) : Parts where
  definitions := Text.join ['\n'] definitions
  body := if body.all Text.isBlankText then none else some (Text.trim (Text.join ['\n'] body))
  hasEntryPoint := false

theorem split_eq_ofLines {code : Text} (noEntryPoint : definesEntryPoint (Text.trim code) = false) :
  split code = Parts.ofLines (linesOf .definition (placed code)) (linesOf .body (placed code))
  := split_of_noEntryPoint noEntryPoint

/-- The lines of the definitions are known from the parts. -/
theorem linesOf_definition_of_split {code : Text} {definitions body : List Text}
    (noEntryPoint : definesEntryPoint (Text.trim code) = false)
    (whole : ∀ line ∈ definitions, '\n' ∉ line) (some : definitions ≠ []) (filled : definitions ≠ [[]])
    (same : split code = Parts.ofLines definitions body) :
  linesOf .definition (placed code) = definitions
  := by
  rw [split_eq_ofLines noEntryPoint] at same
  apply Text.join_inj _ whole some filled (congrArg Parts.definitions same)
  intro line stands
  exact Text.newline_notMem_of_mem_lines ((linesOf_placed_sublist .definition code).subset stands)

/-! ### Where a fragment comes apart -/

/-- Lines that go to one part up to one of them, and to the same or the other from there on. -/
theorem Progress.Sends.place_both {part other : Part} {p q r : Progress} {lines rest : List Text}
    (sends : p.Sends part lines q) (others : q.Sends other rest r) :
  p.place (lines ++ rest) = lines.map (part, ·) ++ rest.map (other, ·)
  := by
  have others := others.place_append []
  rw [List.append_nil] at others
  rw [sends.place_append, others]
  simp [place]

/-- What becomes of a fragment whose lines go to the definitions up to one of them, and to the body from
there on. -/
theorem split_of_sends {code : Text} {definitions body : List Text} {q r : Progress}
    (noEntryPoint : definesEntryPoint (Text.trim code) = false)
    (apart : Text.lines (Text.trim code) = definitions ++ body)
    (taken : Progress.Sends .definition {} definitions q) (left : q.Sends .body body r) :
  split code = Parts.ofLines definitions body
  := by
  rw [split_eq_ofLines noEntryPoint, placed, apart, taken.place_both left]
  simp [linesOf_append, linesOf_map]

/-- A fragment comes apart after the attributes at its front if no other definition begins. -/
theorem split_after_attributes {code : Text} {taken left : List Text}
    (noEntryPoint : definesEntryPoint (Text.trim code) = false)
    (apart : Text.lines (Text.trim code) = taken ++ left)
    (front : afterAttributes false (taken ++ left) = left)
    (plain : ∀ line ∈ left, ¬IsItemLine line ∧ ¬IsAttributeLine line) :
  split code = Parts.ofLines taken left
  := by
  obtain ⟨attributes, q, same, sends, noDefinition, beyond⟩ := sends_attributes {} (taken ++ left)
  obtain rfl : taken = attributes := List.append_cancel_right (same.trans (by rw [front]))
  have sent : ∃ r, q.Sends .body left r := by
    cases left with
    | nil => exact ⟨q, .nil⟩
    | cons line rest =>
        obtain ⟨noAttribute, -⟩ := beyond line (by rw [front]; rfl)
        obtain ⟨depth, inAttribute, inDefinition⟩ := q
        obtain rfl : inAttribute = false := noAttribute
        obtain rfl : inDefinition = false := noDefinition
        exact ⟨_, sends_statements plain depth⟩
  obtain ⟨r, sent⟩ := sent
  exact split_of_sends noEntryPoint apart sends sent

/-! ### One item and statements after it -/

section OneItem

variable {code : Text} {item statements : List Text}
  (noEntryPoint : definesEntryPoint (Text.trim code) = false) (spans : Spans item)
  (lines : Text.lines (Text.trim code) = item ++ statements)

include lines in
theorem placed_of_lines :
  placed code = Progress.place {} (item ++ statements)
  := by
  rw [placed, lines]

include spans in
theorem Spans.ne_blank :
  item ≠ [[]]
  := by
  rintro rfl
  nomatch spans.closing [] rfl

include noEntryPoint spans lines

/-- If the lines of the item are recovered, they are those of the definitions. -/
theorem linesOf_of_recovered (recovered : split code = Parts.ofLines item statements) :
  linesOf .definition (Progress.place {} (item ++ statements)) = item
  := by
  rw [← placed_of_lines lines]
  apply linesOf_definition_of_split noEntryPoint _ spans.some spans.ne_blank recovered
  intro line stands
  apply Text.newline_notMem_of_mem_lines
  rw [lines]
  exact List.mem_append_left _ stands

theorem isItemLine_of_recovered (recovered : split code = Parts.ofLines item statements) :
  ∀ line ∈ (afterAttributes false item).head?, IsItemLine line
  := by
  obtain ⟨taken, q, apart, sends, noDefinition, beyond⟩ := sends_attributes {} item
  cases rest : afterAttributes false item with
  | nil => nofun
  | cons first more =>
      rw [rest] at apart beyond
      obtain ⟨noAttribute, plain⟩ := beyond first rfl
      -- what follows the attributes stands at the front of what the definitions go on with
      have definitions := linesOf_of_recovered noEntryPoint spans lines recovered
      rw [apart, List.append_assoc, sends.place_append, linesOf_append, linesOf_map, if_pos rfl,
        List.append_cancel_left_eq] at definitions
      have begins := begins_of_head noAttribute noDefinition (first :: more ++ statements)
      rw [definitions] at begins
      intro line stands
      obtain rfl := Option.some.inj stands
      exact (begins _ rfl).resolve_right plain

theorem eq_nil_of_recovered (recovered : split code = Parts.ofLines item statements)
    (unclosed : Unclosed item) :
  statements = []
  := by
  have begins := isItemLine_of_recovered noEntryPoint spans lines recovered
  obtain ⟨q, sends, -⟩ := spans.sends begins
  have opened := sends.inAttribute_iff.mpr unclosed
  have definitions := linesOf_of_recovered noEntryPoint spans lines recovered
  rw [sends.place_append, linesOf_append, linesOf_map, if_pos rfl, List.append_right_eq_self] at definitions
  cases statements with
  | nil => rfl
  | cons line rest =>
      have goes : (q.next line).1 = .definition :=
        Progress.next_of_isOpen (by rw [Progress.isOpen, opened, Bool.true_or]) line
      rw [linesOf_place_cons, if_pos goes] at definitions
      contradiction

variable (plain : ∀ line ∈ statements, ¬IsItemLine line ∧ ¬IsAttributeLine line)

include plain

/-- One item before statements is recovered if and only if it begins as an item after its attributes,
and no attribute in it is left open, unless nothing comes after it. -/
theorem split_item_iff :
  split code = Parts.ofLines item statements
    ↔ (∀ line ∈ (afterAttributes false item).head?, IsItemLine line)
      ∧ (Unclosed item → statements = [])
  := by
  constructor
  case mp =>
    intro recovered
    exact ⟨isItemLine_of_recovered noEntryPoint spans lines recovered,
      eq_nil_of_recovered noEntryPoint spans lines recovered⟩
  case mpr =>
    rintro ⟨begins, closed⟩
    obtain ⟨q, sends, opened⟩ := spans.sends begins
    rcases opened with rfl | opened
    · exact split_of_sends noEntryPoint lines sends (sends_statements plain 0)
    · obtain rfl := closed (sends.inAttribute_iff.mp opened)
      exact split_of_sends noEntryPoint lines sends .nil

end OneItem

end Fragment

end NotebookEngine
