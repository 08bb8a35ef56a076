import NotebookEngine.Proofs.Fragment.Progress

/-!
# Blocks of a compiled fragment

A fragment may be a sequence of blocks: attributes, items and statements, each over several lines and
with as many braces closed as opened (`Block.WellFormed`). Within a block the splitting sends all lines
to one part, and at its end it stands as at its beginning, no brace, attribute or definition being open
(`Block.WellFormed.sends`). So the blocks are recovered, in whatever order they stand: the definitions
are the attributes and the items, and the body is the statements (`split_blocks`).
-/

namespace NotebookEngine

namespace Fragment

/-! ### Blocks -/

/-- Lines of an attribute: only the last one has the closing bracket. -/
structure IsAttribute (lines : List Text) : Prop where
  some : lines ≠ []
  first : ∀ line ∈ lines.head?, IsAttributeLine line
  closing : ∀ before line after, lines = before ++ line :: after → (EndsAttribute line ↔ after = [])
  level : net lines = 0

/-- Lines of an item. Before the last line the item is not ended: braces are open, or the code of the
line does not end as that of an item does, or the line is an attribute within the item. -/
structure IsItem (lines : List Text) : Prop where
  some : lines ≠ []
  first : ∀ line ∈ lines.head?, IsItemLine line
  goesOn : ∀ before line after, lines = before ++ line :: after → after ≠ [] →
    IsAttributeLine line ∨ 0 < net (before ++ [line]) ∨ ¬EndsItem line
  attributes : ∀ before line after, lines = before ++ line :: after → IsAttributeLine line →
    EndsAttribute line ∧ after ≠ []
  closing : ∀ line ∈ lines.getLast?, EndsItem line
  level : net lines = 0

/-- Lines of statements: none of them begins an item or an attribute. -/
structure IsStatements (lines : List Text) : Prop where
  plain : ∀ line ∈ lines, ¬IsItemLine line ∧ ¬IsAttributeLine line
  level : net lines = 0

section Decidable

instance (lines : List Text) : Decidable (IsAttribute lines) :=
  decidable_of_iff (lines ≠ [] ∧ (∀ line ∈ lines.head?, IsAttributeLine line)
      ∧ (∀ c ∈ cuts lines, EndsAttribute c.2.1 ↔ c.2.2 = []) ∧ net lines = 0)
    ⟨fun ⟨present, first, closing, level⟩ => ⟨present, first, forall_cuts.mp closing, level⟩,
      fun ⟨present, first, closing, level⟩ => ⟨present, first, forall_cuts.mpr closing, level⟩⟩

instance (lines : List Text) : Decidable (IsItem lines) :=
  decidable_of_iff (lines ≠ [] ∧ (∀ line ∈ lines.head?, IsItemLine line)
      ∧ (∀ c ∈ cuts lines, c.2.2 ≠ [] →
        IsAttributeLine c.2.1 ∨ 0 < net (c.1 ++ [c.2.1]) ∨ ¬EndsItem c.2.1)
      ∧ (∀ c ∈ cuts lines, IsAttributeLine c.2.1 → EndsAttribute c.2.1 ∧ c.2.2 ≠ [])
      ∧ (∀ line ∈ lines.getLast?, EndsItem line) ∧ net lines = 0)
    ⟨fun ⟨present, first, goesOn, attributes, closing, level⟩ =>
        ⟨present, first, forall_cuts.mp goesOn, forall_cuts.mp attributes, closing, level⟩,
      fun ⟨present, first, goesOn, attributes, closing, level⟩ =>
        ⟨present, first, forall_cuts.mpr goesOn, forall_cuts.mpr attributes, closing, level⟩⟩

instance (lines : List Text) : Decidable (IsStatements lines) :=
  decidable_of_iff ((∀ line ∈ lines, ¬IsItemLine line ∧ ¬IsAttributeLine line) ∧ net lines = 0)
    ⟨fun ⟨plain, level⟩ => ⟨plain, level⟩, fun ⟨plain, level⟩ => ⟨plain, level⟩⟩

end Decidable

/-- A block of a fragment. -/
inductive Block where
  | attributes (lines : List Text)
  | item (lines : List Text)
  | statements (lines : List Text)

namespace Block

/-- The lines of a block. -/
def lines : Block → List Text
  | attributes lines | item lines | statements lines => lines

/-- The part to which a block belongs. -/
def part : Block → Part
  | attributes _ | item _ => .definition
  | statements _ => .body

/-- The lines are those of such a block. -/
def WellFormed : Block → Prop
  | attributes lines => IsAttribute lines
  | item lines => IsItem lines
  | statements lines => IsStatements lines

instance (b : Block) : Decidable b.WellFormed :=
  match b with
  | attributes lines => inferInstanceAs (Decidable (IsAttribute lines))
  | item lines => inferInstanceAs (Decidable (IsItem lines))
  | statements lines => inferInstanceAs (Decidable (IsStatements lines))

/-- The lines of the blocks that belong to a part, in their order. -/
def linesIn (part : Part) (blocks : List Block) : List Text :=
  (blocks.filter fun b => b.part = part).flatMap lines

end Block

/-! ### How the splitting goes through a block -/

open Progress (Sends)

/-- Behind an attribute no other one has begun. -/
theorem IsAttribute.beyond {lines : List Text} (isAttribute : IsAttribute lines) :
  afterAttributes false lines = [] ∧ ¬Unclosed lines
  := by
  obtain none | ⟨front, last, apart⟩ := List.eq_nil_or_concat' lines
  · exact absurd none isAttribute.some
  have ends : EndsAttribute last := (isAttribute.closing front last [] apart).mpr rfl
  have goesOn : ∀ line ∈ front, ¬EndsAttribute line := by
    intro line stands ends
    obtain ⟨before, after, rfl⟩ := List.append_of_mem stands
    rw [List.append_assoc, List.cons_append] at apart
    have final := (isAttribute.closing before line _ apart).mp ends
    exact List.append_ne_nil_of_right_ne_nil after (List.cons_ne_nil last []) final
  rw [afterAttributes_of_begins isAttribute.first, apart, afterAttributes_of_goesOn goesOn,
    afterAttributes_of_ends ends]
  exact ⟨rfl, not_unclosed_of_ends ends⟩

theorem IsAttribute.sends {lines : List Text} (isAttribute : IsAttribute lines) :
  Sends .definition {} lines {}
  := by
  obtain ⟨none, closed⟩ := isAttribute.beyond
  obtain ⟨taken, ⟨depth, inAttribute, inDefinition⟩, apart, sends, noDefinition, -⟩ :=
    sends_attributes {} lines
  rw [none, List.append_nil] at apart
  rw [← apart] at sends
  have level : depth = 0 := by
    have level := Progress.depth_after {} lines
    rwa [sends.after, isAttribute.level] at level
  have noAttribute : inAttribute = false := by
    rw [← Bool.not_eq_true]
    exact fun within => closed (sends.inAttribute_iff.mp within)
  obtain rfl : inDefinition = false := noDefinition
  rwa [level, noAttribute] at sends

theorem IsItem.spans {lines : List Text} (isItem : IsItem lines) :
  Spans lines
  := by
  refine ⟨isItem.some, ?_, isItem.closing, isItem.level⟩
  intro before line after apart more
  rcases isItem.goesOn before line after apart more with begins | goesOn
  · exact .inr fun ends => not_endsAttribute ends (isItem.attributes before line after apart begins).1
  · exact goesOn

theorem IsItem.sends {lines : List Text} (isItem : IsItem lines) :
  Sends .definition {} lines {}
  := by
  have plain : afterAttributes false lines = lines :=
    afterAttributes_of_plain fun line stands begins => not_isItemLine begins (isItem.first line stands)
  have begins : ∀ line ∈ (afterAttributes false lines).head?, IsItemLine line := by
    rw [plain]
    exact isItem.first
  obtain ⟨q, sends, rfl | opened⟩ := isItem.spans.sends begins
  · exact sends
  · obtain ⟨before, line, after, apart, begins, goesOn⟩ := sends.inAttribute_iff.mp opened
    have ends := (isItem.attributes before line after apart begins).1
    exact absurd ends (goesOn line List.mem_cons_self)

/-- Through a block the splitting comes to where it stood before. -/
theorem Block.WellFormed.sends {b : Block} (wellFormed : b.WellFormed) :
  Sends b.part {} b.lines {}
  := by
  cases b with
  | attributes lines => exact IsAttribute.sends wellFormed
  | item lines => exact IsItem.sends wellFormed
  | statements lines =>
      have sends := sends_statements wellFormed.plain 0
      rwa [wellFormed.level] at sends

/-! ### How it goes through blocks -/

/-- The lines of blocks go where their blocks belong. -/
theorem place_blocks {blocks : List Block} (wellFormed : ∀ b ∈ blocks, b.WellFormed) :
  Progress.place {} (blocks.flatMap Block.lines)
    = blocks.flatMap fun b => b.lines.map (b.part, ·)
  := by
  induction blocks with
  | nil => rfl
  | cons b blocks ih =>
      rw [List.forall_mem_cons] at wellFormed
      rw [List.flatMap_cons, wellFormed.1.sends.place_append, ih wellFormed.2, List.flatMap_cons]

theorem linesOf_append (part : Part) (placed others : List (Part × Text)) :
  linesOf part (placed ++ others) = linesOf part placed ++ linesOf part others
  := by
  simp [linesOf]

theorem linesOf_map (part other : Part) (lines : List Text) :
  linesOf part (lines.map (other, ·)) = if other = part then lines else []
  := by
  by_cases same : other = part <;> simp [linesOf, List.filter_map, Function.comp_def, same]

theorem linesOf_blocks (part : Part) (blocks : List Block) :
  linesOf part (blocks.flatMap fun b => b.lines.map (b.part, ·)) = Block.linesIn part blocks
  := by
  induction blocks with
  | nil => rfl
  | cons b blocks ih =>
      rw [List.flatMap_cons, linesOf_append, ih, linesOf_map, Block.linesIn, Block.linesIn,
        List.filter_cons]
      by_cases same : b.part = part <;> simp [same]

/-- The parts of a fragment whose lines are those of blocks. -/
theorem split_of_lines {code : Text} {blocks : List Block} (trimmed : Text.trim code = code)
    (noEntryPoint : definesEntryPoint code = false) (wellFormed : ∀ b ∈ blocks, b.WellFormed)
    (lines : Text.lines code = blocks.flatMap Block.lines) :
  split code =
    { definitions := Text.join ['\n'] (Block.linesIn .definition blocks)
      body := if (Block.linesIn .body blocks).all Text.isBlankText then none
        else some (Text.trim (Text.join ['\n'] (Block.linesIn .body blocks)))
      hasEntryPoint := false }
  := by
  have stands (part : Part) : linesOf part (placed code) = Block.linesIn part blocks := by
    rw [placed, trimmed, lines, place_blocks wellFormed, linesOf_blocks]
  rw [split_of_noEntryPoint (by rwa [trimmed]), groups, stands, stands]

theorem Block.linesIn_sublist (part : Part) (blocks : List Block) :
  (linesIn part blocks).Sublist (blocks.flatMap lines)
  := by
  induction blocks with
  | nil => exact .slnil
  | cons b blocks ih =>
      rw [linesIn, List.filter_cons, List.flatMap_cons]
      split
      case isTrue =>
        rw [List.flatMap_cons]
        exact (List.Sublist.refl _).append ih
      case isFalse => exact ih.trans (List.sublist_append_right _ _)

/-- The lines of a trimmed text that is joined from lines are these, unless the text is empty. -/
theorem lines_of_joined {code : Text} {lines : List Text} (trimmed : Text.trim code = code)
    (noReturn : '\r' ∉ code) (whole : ∀ line ∈ lines, '\n' ∉ line)
    (joined : code = Text.join ['\n'] lines) :
  Text.lines code = lines ∨ code = [] ∧ lines = [[]]
  := by
  by_cases none : lines = []
  case pos =>
    rw [joined, none]
    exact .inl rfl
  have rows : Text.rows code = lines := by
    rw [joined, Text.rows, Text.pieces_join none whole]
  cases blank : Text.isBlankText code with
  | true =>
      rw [← Text.isEmpty_trim, trimmed, List.isEmpty_iff] at blank
      rw [blank] at rows
      exact .inr ⟨blank, rows.symm⟩
  | false =>
      have last := Text.getLast?_rows_trim blank
      rw [trimmed, rows] at last
      rw [Text.lines_of_noReturn noReturn, rows, if_neg last]
      exact .inl rfl

/-- The blocks of a fragment are recovered. A trimmed fragment without carriage returns and without
an entry point, the lines of which are those of blocks, has as its definitions the lines of the
attributes and of the items in their order, and as its body those of the statements in their order,
trimmed, or no body if they are all blank. -/
theorem split_blocks {code : Text} {blocks : List Block} (trimmed : Text.trim code = code)
    (noReturn : '\r' ∉ code) (noEntryPoint : definesEntryPoint code = false)
    (wellFormed : ∀ b ∈ blocks, b.WellFormed) (whole : ∀ b ∈ blocks, ∀ line ∈ b.lines, '\n' ∉ line)
    (joined : code = Text.join ['\n'] (blocks.flatMap Block.lines)) :
  split code =
    { definitions := Text.join ['\n'] (Block.linesIn .definition blocks)
      body := if (Block.linesIn .body blocks).all Text.isBlankText then none
        else some (Text.trim (Text.join ['\n'] (Block.linesIn .body blocks)))
      hasEntryPoint := false }
  := by
  have whole : ∀ line ∈ blocks.flatMap Block.lines, '\n' ∉ line := by
    intro line stands
    obtain ⟨b, isBlock, stands⟩ := List.mem_flatMap.mp stands
    exact whole b isBlock line stands
  rcases lines_of_joined trimmed noReturn whole joined with lines | ⟨rfl, single⟩
  case inl => exact split_of_lines trimmed noEntryPoint wellFormed lines
  case inr =>
    -- the one line of the fragment is empty, and so is what becomes of it
    have empty (part : Part) : Block.linesIn part blocks = [] ∨ Block.linesIn part blocks = [[]] := by
      have sublist := Block.linesIn_sublist part blocks
      rw [single] at sublist
      exact List.sublist_singleton.mp sublist
    have none : ∀ b ∈ ([] : List Block), b.WellFormed := nofun
    rw [split_of_lines trimmed noEntryPoint none rfl]
    rcases empty .definition with definitions | definitions <;>
      rcases empty .body with body | body <;>
        rw [definitions, body] <;> rfl

/-! ### A fragment of all kinds -/

/-- A fragment of statements around an attribute over two lines and an item with an attribute, a brace
in a string and a comment. -/
def blended : List Block := [
  .statements ["let x = 1;".toList],
  .attributes ["#[derive(Debug,".toList, "    Clone)] // both".toList],
  .item ["struct P \x7b".toList, "    #[allow(unused)]".toList, "    x: u8, // \x7d".toList,
    "\x7d // end".toList],
  .statements ["if x > 0 \x7b".toList, "    println!(\"\x7b\");".toList, "\x7d".toList,
    "x".toList]]

theorem split_blocks_blended :
  (∀ b ∈ blended, b.WellFormed)
    ∧ ∃ code, code = Text.join ['\n'] (blended.flatMap Block.lines)
      ∧ split code =
        { definitions := Text.join ['\n'] (Block.linesIn .definition blended)
          body := some ("let x = 1;\nif x > 0 \x7b\n    println!(\"\x7b\");\n\x7d\nx").toList
          hasEntryPoint := false }
  := by
  have wellFormed : ∀ b ∈ blended, b.WellFormed := by decide +kernel
  have whole : ∀ b ∈ blended, ∀ line ∈ b.lines, '\n' ∉ line := by decide +kernel
  refine ⟨wellFormed, _, rfl, ?_⟩
  rw [split_blocks (by decide +kernel) (by decide +kernel) (by decide +kernel) wellFormed whole rfl]
  decide +kernel

end Fragment

end NotebookEngine
