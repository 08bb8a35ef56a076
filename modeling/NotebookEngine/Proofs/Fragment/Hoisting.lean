import NotebookEngine.Proofs.Fragment.Blocks
import NotebookEngine.Proofs.Text.Words

/-!
# Definitions in a compiled program

The splitting finds the definitions of a fragment one after the other, each with all its lines
(`definitions`); in a fragment of blocks they are its attributes and its items (`definitions_of_blocks`).
The program takes the definitions line by line: lines that begin an inner attribute stand at its top, from
whatever definition they come, and all other lines below. So a definition stands in one piece if and only
if all its lines begin an inner attribute or none of them does (`program_definitions`). An inner
attribute over several lines is torn, and so is an item that has an inner attribute of its own.
-/

namespace NotebookEngine

namespace Fragment

/-! ### The definitions one by one -/

/-- The definitions among lines, each with its lines. A definition goes on as long as it is open; the first
one may have begun before these lines. -/
def Progress.definitions : Progress → List Text → List (List Text)
  | _, [] => []
  | p, line :: rest =>
    let (part, p) := p.next line
    match part with
    | .body => p.definitions rest
    | .definition =>
      if p.isOpen then
        match p.definitions rest with
        | [] => [[line]]
        | lines :: others => (line :: lines) :: others
      else [line] :: p.definitions rest

/-- The definitions of a fragment without an entry point. -/
def definitions (code : Text) : List (List Text) :=
  Progress.definitions {} (Text.lines (Text.trim code))

section Cons

variable {p : Progress} {line : Text} (rest : List Text)

theorem Progress.definitions_body (goes : (p.next line).1 = .body) :
  p.definitions (line :: rest) = (p.next line).2.definitions rest
  := by
  simp only [definitions, goes]

theorem Progress.definitions_closed (goes : (p.next line).1 = .definition)
    (closed : (p.next line).2.isOpen = false) :
  p.definitions (line :: rest) = [line] :: (p.next line).2.definitions rest
  := by
  simp only [definitions, goes, closed, Bool.false_eq_true, ↓reduceIte]

theorem Progress.definitions_opened (goes : (p.next line).1 = .definition)
    (opened : (p.next line).2.isOpen = true) :
  p.definitions (line :: rest)
    = match (p.next line).2.definitions rest with
      | [] => [[line]]
      | lines :: others => (line :: lines) :: others
  := by
  simp only [definitions, goes, opened, ↓reduceIte]

end Cons

/-- The lines of the definitions are those that go there. -/
theorem Progress.flatten_definitions (p : Progress) (lines : List Text) :
  (p.definitions lines).flatten = linesOf .definition (p.place lines)
  := by
  induction lines generalizing p with
  | nil => rfl
  | cons line rest ih =>
      rw [linesOf_place_cons, ← ih]
      cases goes : (p.next line).1 with
      | body => rw [definitions_body rest goes, if_neg nofun]
      | definition =>
          rw [if_pos rfl]
          cases opened : (p.next line).2.isOpen with
          | false => rw [definitions_closed rest goes opened]; rfl
          | true =>
              rw [definitions_opened rest goes opened]
              cases (p.next line).2.definitions rest <;> rfl

theorem flatten_definitions (code : Text) :
  (definitions code).flatten = linesOf .definition (placed code)
  := Progress.flatten_definitions {} _

/-! ### The lines of one definition -/

/-- From here the lines are those of one definition, which is open after each of them but the last. -/
inductive Progress.Forms : Progress → List Text → Prop
  | last {p : Progress} {line : Text} (goes : (p.next line).1 = .definition) : Forms p [line]
  | cons {p : Progress} {line : Text} {rest : List Text} (goes : (p.next line).1 = .definition)
    (opened : (p.next line).2.isOpen = true) (forms : Forms (p.next line).2 rest) :
    Forms p (line :: rest)

/-- The lines are those of one definition that begins with them. -/
def IsDefinition (lines : List Text) : Prop :=
  ∃ p : Progress, p.isOpen = false ∧ p.Forms lines

/-- Nothing is opened by a line of the body. -/
theorem Progress.isOpen_next_body {p : Progress} {line : Text} (goes : (p.next line).1 = .body) :
  p.isOpen = false ∧ (p.next line).2.isOpen = false
  := by
  have closed : p.isOpen = false := by
    rw [← Bool.not_eq_true]
    intro opened
    rw [next_of_isOpen opened line] at goes
    contradiction
  refine ⟨closed, ?_⟩
  obtain ⟨noAttribute, noDefinition⟩ := Bool.or_eq_false_iff.mp closed
  have plain := next_eq_body goes
  rw [next_statement noAttribute noDefinition
    ⟨Bool.eq_false_iff.mp plain.1, Bool.eq_false_iff.mp plain.2⟩]
  rfl

/-- The first definition is one that is open before the lines, if there is such, and all others begin
with their lines. -/
theorem Progress.forms_definitions {p : Progress} {lines first : List Text} {others : List (List Text)}
    (found : p.definitions lines = first :: others) :
  (p.isOpen = true → p.Forms first) ∧ (p.isOpen = false → IsDefinition first)
    ∧ ∀ d ∈ others, IsDefinition d
  := by
  induction lines generalizing p first others with
  | nil => nomatch found
  | cons line rest ih =>
      cases goes : (p.next line).1 with
      | body =>
          obtain ⟨closed, closed_next⟩ := isOpen_next_body goes
          rw [definitions_body rest goes] at found
          obtain ⟨-, begins, more⟩ := ih found
          refine ⟨?_, fun _ => begins closed_next, more⟩
          rw [closed]
          nofun
      | definition =>
          cases opened : (p.next line).2.isOpen with
          | false =>
              rw [definitions_closed rest goes opened] at found
              obtain ⟨rfl, rfl⟩ := List.cons.inj found
              refine ⟨fun _ => .last goes, fun closed => ⟨p, closed, .last goes⟩, ?_⟩
              intro d stands
              cases next : (p.next line).2.definitions rest with
              | nil => rw [next] at stands; contradiction
              | cons e more =>
                  obtain ⟨-, begins, others⟩ := ih next
                  rw [next] at stands
                  rcases List.mem_cons.mp stands with rfl | stands
                  · exact begins opened
                  · exact others d stands
          | true =>
              rw [definitions_opened rest goes opened] at found
              have forms : p.Forms first ∧ ∀ d ∈ others, IsDefinition d := by
                cases next : (p.next line).2.definitions rest with
                | nil =>
                    rw [next] at found
                    obtain ⟨rfl, rfl⟩ := List.cons.inj found
                    exact ⟨.last goes, nofun⟩
                | cons e more =>
                    rw [next] at found
                    obtain ⟨rfl, rfl⟩ := List.cons.inj found
                    obtain ⟨forms, -, others⟩ := ih next
                    exact ⟨.cons goes opened (forms opened), others⟩
              exact ⟨fun _ => forms.1, fun closed => ⟨p, closed, forms.1⟩, forms.2⟩

theorem isDefinition_of_mem {code : Text} {d : List Text} (stands : d ∈ definitions code) :
  IsDefinition d
  := by
  cases found : definitions code with
  | nil => rw [found] at stands; contradiction
  | cons first others =>
      obtain ⟨-, begins, more⟩ := Progress.forms_definitions found
      rw [found] at stands
      rcases List.mem_cons.mp stands with rfl | stands
      · exact begins rfl
      · exact more d stands

/-- An attribute ends with the first line that ends with its bracket. -/
theorem Progress.Forms.closing {p : Progress} {lines : List Text} (forms : p.Forms lines)
    (noDefinition : p.inDefinition = false)
    (begun : p.inAttribute = true ∨ ∀ line ∈ lines.head?, IsAttributeLine line)
    {before after : List Text} {line : Text} (apart : lines = before ++ line :: after)
    (ends : EndsAttribute line) :
  after = []
  := by
  induction forms generalizing before with
  | last =>
      obtain ⟨-, same⟩ := List.append_eq_singleton_iff.mp apart.symm |>.resolve_right (by simp)
      exact (List.cons.inj same).2
  | @cons p first rest goes opened forms ih =>
      have within : p.inAttribute = true ∨ IsAttributeLine first :=
        begun.imp_right fun begins => begins first rfl
      have next := next_attribute within
      rw [next, noDefinition, isOpen, Bool.or_false] at opened
      cases before with
      | nil =>
          obtain ⟨rfl, -⟩ := List.cons.inj apart
          rw [EndsAttribute] at ends
          rw [ends] at opened
          contradiction
      | cons _ before =>
          apply ih _ _ (List.cons.inj apart).2
          · rw [next, noDefinition]
          · rw [next]
            exact .inl opened

theorem IsDefinition.closing {lines before after : List Text} {line : Text}
    (isDefinition : IsDefinition lines) (begun : ∀ line ∈ lines.head?, IsAttributeLine line)
    (apart : lines = before ++ line :: after) (ends : EndsAttribute line) :
  after = []
  := by
  obtain ⟨p, closed, forms⟩ := isDefinition
  exact forms.closing (Bool.or_eq_false_iff.mp closed).2 (.inr begun) apart ends

/-! ### The definitions of blocks -/

theorem Progress.after_concat (p : Progress) (lines : List Text) (line : Text) :
  p.after (lines ++ [line]) = ((p.after lines).next line).2
  := by
  rw [after, List.foldl_concat, ← after]

theorem Progress.Sends.forms {p q : Progress} {lines : List Text} (sends : p.Sends .definition lines q)
    (some : lines ≠ [])
    (opened : ∀ before after, lines = before ++ after → before ≠ [] → after ≠ [] →
      (p.after before).isOpen = true) :
  p.Forms lines
  := by
  induction sends with
  | nil => contradiction
  | @cons p q line rest goes sends ih =>
      cases rest with
      | nil => exact .last goes
      | cons next rest =>
          refine .cons goes ?_ (ih (List.cons_ne_nil _ _) ?_)
          · exact opened [line] (next :: rest) rfl (List.cons_ne_nil _ _) (List.cons_ne_nil _ _)
          · intro before after apart _ more
            exact opened (line :: before) after (by rw [apart]; rfl) (List.cons_ne_nil _ _) more

theorem Progress.Forms.definitions_append {p : Progress} {lines : List Text} (forms : p.Forms lines)
    (closed : (p.after lines).isOpen = false) (rest : List Text) :
  p.definitions (lines ++ rest) = lines :: (p.after lines).definitions rest
  := by
  induction forms with
  | last goes => exact definitions_closed rest goes closed
  | cons goes opened forms ih =>
      rw [List.cons_append, definitions_opened _ goes opened, ih closed]
      rfl

theorem Progress.Sends.definitions_append {p q : Progress} {lines : List Text}
    (sends : p.Sends .body lines q) (rest : List Text) :
  p.definitions (lines ++ rest) = q.definitions rest
  := by
  induction sends with
  | nil => rfl
  | cons goes sends ih => rw [List.cons_append, definitions_body _ goes, ih]

theorem IsAttribute.forms {lines : List Text} (isAttribute : IsAttribute lines) :
  Progress.Forms {} lines
  := by
  apply isAttribute.sends.forms isAttribute.some
  intro before after apart some more
  have unclosed : Unclosed before := by
    obtain ⟨first, rest, rfl⟩ := List.exists_cons_of_ne_nil some
    refine ⟨[], first, rest, rfl, isAttribute.first first (by rw [apart]; rfl), ?_⟩
    intro line stands ends
    obtain ⟨front, back, same⟩ := List.append_of_mem stands
    rw [same, List.append_assoc, List.cons_append] at apart
    have last := (isAttribute.closing front line _ apart).mp ends
    exact more (List.append_eq_nil_iff.mp last).2
  rw [Progress.isOpen, (Progress.inAttribute_after {} before).mpr (.inr unclosed), Bool.true_or]

theorem IsItem.inDefinition_after {lines : List Text} (isItem : IsItem lines) {before after : List Text}
    (apart : lines = before ++ after) (some : before ≠ []) (more : after ≠ []) :
  (Progress.after {} before).inDefinition = true
  := by
  induction before using List.reverseRecOn generalizing after with
  | nil => contradiction
  | append_singleton front line ih =>
      rw [List.append_assoc, List.singleton_append] at apart
      have within : front ≠ [] → (Progress.after {} front).inDefinition = true :=
        fun filled => ih apart filled (List.cons_ne_nil _ _)
      rw [Progress.after_concat]
      have noAttribute : (Progress.after {} front).inAttribute = false := by
        rw [← Bool.not_eq_true, Progress.inAttribute_after]
        rintro (⟨within, -⟩ | ⟨start, opener, back, same, begins, goesOn⟩)
        · contradiction
        · rw [same, List.append_assoc, List.cons_append] at apart
          exact goesOn opener List.mem_cons_self (isItem.attributes _ _ _ apart begins).1
      by_cases begins : IsAttributeLine line
      case pos =>
        rw [Progress.next_attribute (.inr begins)]
        apply within
        rintro rfl
        exact not_isItemLine begins (isItem.first line (by rw [apart]; rfl))
      case neg =>
        have item : (Progress.after {} front).inDefinition = true ∨ IsItemLine line := by
          by_cases filled : front = []
          · exact .inr (isItem.first line (by rw [apart, filled]; rfl))
          · exact .inl (within filled)
        rw [Progress.next_item noAttribute begins item, Progress.depth_after]
        have goesOn := (isItem.goesOn front line after apart more).resolve_left begins
        rw [net_concat] at goesOn
        simpa [EndsItem] using goesOn

theorem IsItem.forms {lines : List Text} (isItem : IsItem lines) :
  Progress.Forms {} lines
  := by
  apply isItem.sends.forms isItem.some
  intro before after apart some more
  rw [Progress.isOpen, isItem.inDefinition_after apart some more, Bool.or_true]

theorem Block.WellFormed.forms {b : Block} (wellFormed : b.WellFormed) (definition : b.part = .definition) :
  Progress.Forms {} b.lines
  := by
  cases b with
  | attributes lines => exact IsAttribute.forms wellFormed
  | item lines => exact IsItem.forms wellFormed
  | statements lines => nomatch definition

theorem Progress.definitions_blocks {blocks : List Block} (wellFormed : ∀ b ∈ blocks, b.WellFormed) :
  definitions {} (blocks.flatMap Block.lines)
    = (blocks.filter fun b => b.part = .definition).map Block.lines
  := by
  induction blocks with
  | nil => rfl
  | cons b blocks ih =>
      rw [List.forall_mem_cons] at wellFormed
      have sends := wellFormed.1.sends
      have ih := ih wellFormed.2
      rw [List.flatMap_cons, List.filter_cons]
      cases part : b.part with
      | definition =>
          have closed : (after {} b.lines).isOpen = false := by rw [sends.after]; rfl
          rw [(wellFormed.1.forms part).definitions_append closed, sends.after, ih]
          rfl
      | body =>
          rw [part] at sends
          rw [sends.definitions_append, ih]
          rfl

/-- The definitions of a fragment whose lines are those of blocks are its attributes and its items. -/
theorem definitions_of_blocks {code : Text} {blocks : List Block}
    (wellFormed : ∀ b ∈ blocks, b.WellFormed)
    (lines : Text.lines (Text.trim code) = blocks.flatMap Block.lines) :
  definitions code = (blocks.filter fun b => b.part = .definition).map Block.lines
  := by
  rw [definitions, lines, Progress.definitions_blocks wellFormed]

/-! ### Inner attributes -/

theorem isInnerAttribute_iff {line : Text} :
  isInnerAttribute line = true ↔ ['#', '!', '['] <+: Text.trim line
  := by
  rw [isInnerAttribute, Text.startsWith_iff]
  constructor
  case mp =>
    rintro ⟨rest, same⟩
    rw [Text.trim, ← same]
    exact Text.prefix_trimEnd_append (by decide) rest
  case mpr => exact fun begins => begins.trans (List.rdropWhile_prefix Text.isBlank _)

theorem isInnerAttribute_congr {row line : Text} (same : Text.trim row = Text.trim line) :
  isInnerAttribute row = isInnerAttribute line
  := by
  rw [Bool.eq_iff_iff, isInnerAttribute_iff, isInnerAttribute_iff, same]

theorem isInnerAttribute_bare (line : Text) :
  isInnerAttribute (Text.bare line) = isInnerAttribute line
  := isInnerAttribute_congr (Text.trim_bare line)

theorem isAttributeLine_of_inner {line : Text} (inner : isInnerAttribute line = true) :
  IsAttributeLine line
  := by
  rw [isInnerAttribute_iff] at inner
  rw [IsAttributeLine, startsAttribute, Bool.or_eq_true]
  exact .inr (Text.startsWith_iff.mpr inner)

theorem not_inner_of_plain {line : Text} (plain : startsAttribute (Text.trim line) = false) :
  isInnerAttribute line = false
  := by
  rw [← Bool.not_eq_true]
  intro inner
  have begins : startsAttribute (Text.trim line) = true := isAttributeLine_of_inner inner
  rw [plain] at begins
  contradiction

/-! ### The rows of a program -/

theorem not_inner_closingLines (result : Text) :
  ∀ row ∈ closingLines result, isInnerAttribute row = false
  := by
  have fixed : ∀ row ∈ ["    \x7d;".toList,
      "        let _ = write!(__polycell_out, \"\x7b:?\x7d\", __polycell_value);".toList,
      "    \x7d".toList, "\x7d".toList], isInnerAttribute row = false := by
    decide
  have created (rest : Text) : isInnerAttribute
      ("    if let Ok(mut __polycell_out) = std::fs::File::create(".toList ++ rest) = false := rfl
  simp only [List.forall_mem_cons] at fixed
  obtain ⟨first, rest⟩ := fixed
  simp only [closingLines, List.forall_mem_cons, List.append_assoc]
  exact ⟨first, created _, rest⟩

theorem Groups.exists_itemRows_eq (g : Groups) :
  ∃ pad, g.itemRows = pad ++ g.items ∧ ∀ row ∈ pad, isInnerAttribute row = false
  := by
  by_cases none : g.items = []
  · exact ⟨[[]], by rw [itemRows, if_pos none, none]; rfl, by decide⟩
  · exact ⟨[], by rw [itemRows, if_neg none]; rfl, List.forall_mem_nil _⟩

/-- Rows of which the first are the inner attributes of the groups, before the attribute of every program,
and among the others the items stand together, without any other inner attribute. -/
def Groups.Hoists (g : Groups) (rows : List Text) : Prop :=
  ∃ above below, rows = g.attributes ++ "#![allow(unused)]".toList :: (above ++ g.items ++ below)
    ∧ (∀ row ∈ above, isInnerAttribute row = false) ∧ ∀ row ∈ below, isInnerAttribute row = false

theorem Groups.hoists_idleProgram (g : Groups) :
  g.Hoists (g.idleProgram ++ [[]])
  := by
  obtain ⟨pad, items, plain⟩ := g.exists_itemRows_eq
  refine ⟨[] :: pad, [[], "fn main() \x7b\x7d".toList, []], ?_, ?_, by decide⟩
  · simp [idleProgram, items]
  · exact List.forall_mem_cons.mpr ⟨rfl, plain⟩

theorem Groups.hoists_valueProgram (g : Groups) {body : List Text}
    (plain : ∀ row ∈ body, isInnerAttribute row = false) (result : Text) :
  g.Hoists (g.valueProgram body result ++ [[]])
  := by
  obtain ⟨pad, items, pad_plain⟩ := g.exists_itemRows_eq
  have opening : ∀ row ∈ ["use std::io::Write as _;".toList, []], isInnerAttribute row = false := by
    decide
  have main : ∀ row ∈ [[], "fn main() \x7b".toList, "    let __polycell_value = \x7b".toList],
      isInnerAttribute row = false := by
    decide
  refine ⟨["use std::io::Write as _;".toList, []] ++ pad,
    [[], "fn main() \x7b".toList, "    let __polycell_value = \x7b".toList] ++ body
      ++ closingLines result ++ [[]], ?_, ?_, ?_⟩
  · simp [valueProgram, items]
  · exact List.forall_mem_append.mpr ⟨opening, pad_plain⟩
  · simp only [List.forall_mem_append]
    exact ⟨⟨⟨main, plain⟩, not_inner_closingLines result⟩, by decide⟩

/-- No row of a body is an inner attribute. -/
theorem not_inner_body {code : Text} (some : (groups code).body.all Text.isBlankText = false) :
  ∀ row ∈ Text.rows (Text.trim (Text.join ['\n'] (groups code).body)), isInnerAttribute row = false
  := by
  obtain ⟨before, inner, after, apart, -, -, -, -, kept⟩ := trimmed_body some
  rw [kept]
  intro row stands
  obtain ⟨line, stands, same⟩ := Text.exists_trim_eq_of_mem_trimEnds stands
  rw [isInnerAttribute_congr same]
  have body : line ∈ (groups code).body := by
    rw [apart]
    exact List.mem_append_left _ (List.mem_append_right _ stands)
  exact not_inner_of_plain (plain_of_mem_body body).2

/-- The groups of the lines of definitions. -/
def Parts.groups (p : Parts) : Groups :=
  Groups.ofLines (Text.lines p.definitions) []

/-- The rows of a program. -/
theorem hoists_program {code : Text} (noEntryPoint : definesEntryPoint (Text.trim code) = false)
    (result : Text) :
  (split code).groups.Hoists (Text.rows ((split code).program result))
  := by
  have closed : (split code).hasEntryPoint = false := by rw [split_of_noEntryPoint noEntryPoint]
  have definitions : ∀ line ∈ (split code).groups.attributes ++ (split code).groups.items,
      '\n' ∉ line := by
    rw [List.forall_mem_append]
    exact ⟨fun line h => Text.newline_notMem_of_mem_lines (List.mem_filter.mp h).1,
      fun line h => Text.newline_notMem_of_mem_lines (List.mem_filter.mp h).1⟩
  have fixed : ∀ line, Text.InLine line → '\n' ∉ line := fun _ inLine => inLine.1
  cases body : (groups code).body.all Text.isBlankText with
  | true =>
      have none : (split code).body = none := by rw [split_of_noEntryPoint noEntryPoint, if_pos body]
      rw [Parts.program_of_none closed none [], ← Parts.groups,
        Text.rows_ended (Groups.forall_mem_idleProgram fixed definitions)]
      apply Groups.hoists_idleProgram
  | false =>
      have some : (split code).body = some (Text.trim (Text.join ['\n'] (groups code).body)) := by
        rw [split_of_noEntryPoint noEntryPoint, body]
        rfl
      have whole : ∀ row ∈ Text.rows (Text.trim (Text.join ['\n'] (groups code).body)), '\n' ∉ row :=
        fun row h => Text.notMem_of_mem_pieces h
      rw [Parts.program_of_some closed some [], ← Parts.groups,
        Text.rows_ended (Groups.forall_mem_valueProgram fixed definitions whole result)]
      exact Groups.hoists_valueProgram _ (not_inner_body body) result

/-! ### Definitions among the rows -/

/-- The lines stand together among rows, in their order and but for carriage returns at the end of each. -/
def Stand (lines rows : List Text) : Prop :=
  lines.map Text.bare <:+: rows.map Text.bare

instance (lines rows : List Text) : Decidable (Stand lines rows) :=
  inferInstanceAs (Decidable (_ <:+: _))

/-- Lines that are read back but for carriage returns are filtered to the same. -/
theorem map_bare_filter {ls ms : List Text} (same : ls.map Text.bare = ms.map Text.bare)
    {test : Text → Bool} (ignores : ∀ line, test (Text.bare line) = test line) :
  (ls.filter test).map Text.bare = (ms.filter test).map Text.bare
  := by
  have through (ns : List Text) : (ns.filter test).map Text.bare = (ns.map Text.bare).filter test := by
    rw [List.filter_map]
    congr 2
    exact funext fun line => (ignores line).symm
  rw [through, through, same]

/-- The definitions are read back but for carriage returns. -/
theorem map_bare_lines_definitions {code : Text}
    (noEntryPoint : definesEntryPoint (Text.trim code) = false) :
  (Text.lines (split code).definitions).map Text.bare = (definitions code).flatten.map Text.bare
  := by
  rw [split_of_noEntryPoint noEntryPoint, flatten_definitions]
  apply Text.map_bare_lines_join
  · intro line stands
    exact Text.newline_notMem_of_mem_lines ((linesOf_placed_sublist .definition code).subset stands)
  · exact getLast?_definitions (Text.getLast?_lines_trim code) {}

/-- The text has neither quotes nor slashes. -/
def IsUnquoted (s : Text) : Prop :=
  ∀ c ∈ s, c ∉ ['"', '\'', '/']

instance (s : Text) : Decidable (IsUnquoted s) :=
  List.decidableBAll _ s

/-- A line without quotes and slashes is code up to the blanks at its end. -/
theorem IsUnquoted.codeOf_eq {line : Text} (unquoted : IsUnquoted line) :
  codeOf line = Text.trimEnd line
  := by
  have whole : (scanFrom false 0 line).code = line := by
    induction line with
    | nil => rfl
    | cons c line ih =>
        obtain ⟨first, rest⟩ := List.forall_mem_cons.mp unquoted
        simp only [List.mem_cons, List.not_mem_nil, or_false, not_or] at first
        obtain ⟨noString, noQuote, noComment⟩ := first
        have ih := congrArg (c :: ·) (ih rest)
        rw [scanFrom, if_neg noString, if_neg noQuote, if_neg (by simp [noComment])]
        split
        · exact ih
        · split <;> exact ih
  rw [codeOf, scan, whole]

/-- The attribute of every program ends on its line. -/
theorem endsAttribute_of_bare {line : Text} (same : Text.bare line = "#![allow(unused)]".toList) :
  EndsAttribute line
  := by
  obtain ⟨returns, apart, all⟩ := Text.exists_bare_append line
  rw [same] at apart
  have attribute_unquoted : IsUnquoted "#![allow(unused)]".toList := by decide
  have returns_unquoted : IsUnquoted returns := by
    intro c stands
    rw [all c stands]
    decide
  have unquoted : IsUnquoted line := by
    rw [apart, IsUnquoted, List.forall_mem_append]
    exact ⟨attribute_unquoted, returns_unquoted⟩
  rw [EndsAttribute, unquoted.codeOf_eq, apart,
    Text.trimEnd_append_blank (Text.isBlankText_of_returns all)]
  decide

/-- Lines that stand among rows of one kind are all of that kind. -/
theorem isInnerAttribute_of_subset {lines rows : List Text} {inner : Bool}
    (kind : ∀ row ∈ rows, isInnerAttribute row = inner)
    (subset : lines.map Text.bare ⊆ rows.map Text.bare) :
  ∀ line ∈ lines, isInnerAttribute line = inner
  := by
  intro line stands
  obtain ⟨row, row_stands, same⟩ := List.mem_map.mp (subset (List.mem_map_of_mem stands))
  rw [← isInnerAttribute_bare, ← same, isInnerAttribute_bare]
  exact kind row row_stands

/-- A definition that stands together among the rows has lines of one kind only. Lines of both kinds would
stand around the attribute of every program, which does not begin a definition that goes on. -/
theorem IsDefinition.uniform_of_stand {lines top bottom : List Text} (isDefinition : IsDefinition lines)
    (top_inner : ∀ row ∈ top, isInnerAttribute row = true)
    (bottom_plain : ∀ row ∈ bottom, isInnerAttribute row = false)
    (stands : Stand lines (top ++ "#![allow(unused)]".toList :: bottom)) :
  (∀ line ∈ lines, isInnerAttribute line = true) ∨ ∀ line ∈ lines, isInnerAttribute line = false
  := by
  have top_inner : ∀ row ∈ top ++ ["#![allow(unused)]".toList], isInnerAttribute row = true := by
    rw [List.forall_mem_append]
    exact ⟨top_inner, by decide⟩
  rw [Stand, List.append_cons, List.map_append, List.infix_append_iff] at stands
  rcases stands with above | below | ⟨_, _, apart, above, below⟩
  · exact .inl (isInnerAttribute_of_subset top_inner above.subset)
  · exact .inr (isInnerAttribute_of_subset bottom_plain below.subset)
  obtain ⟨front, back, rfl, rfl, rfl⟩ := List.map_eq_append_iff.mp apart
  have front_inner := isInnerAttribute_of_subset top_inner above.subset
  have back_plain := isInnerAttribute_of_subset bottom_plain below.subset
  have begun : front ≠ [] → ∀ line ∈ (front ++ back).head?, IsAttributeLine line := by
    intro some
    rw [List.head?_append_of_ne_nil front some]
    exact fun line h => isAttributeLine_of_inner (front_inner line (List.mem_of_head? h))
  rw [List.map_append, List.map_singleton, List.suffix_concat_iff] at above
  rcases above with none | ⟨_, ends, -⟩
  · obtain rfl := List.map_eq_nil_iff.mp none
    exact .inr back_plain
  -- the attribute of every program is the last of the lines, as it is closed there
  obtain ⟨before, _, rfl, -, single⟩ := List.map_eq_append_iff.mp ends
  obtain ⟨line, rfl, same⟩ := List.map_eq_singleton_iff.mp single
  obtain rfl := isDefinition.closing (begun (by simp)) (List.append_assoc before [line] back)
    (endsAttribute_of_bare same)
  rw [List.append_nil]
  exact .inl front_inner

/-- What becomes of the definitions of a fragment in its program; of a fragment of blocks, of its attributes
and its items. At the top stand all lines of them that begin an inner attribute, in their order, and no
other inner attribute stands below that of every program. The inner attributes of each definition stand
together at the top, and its other lines stand together below; so it stands in one piece if and only if
its lines are all of one kind. -/
theorem program_definitions {code : Text} (noEntryPoint : definesEntryPoint (Text.trim code) = false)
    (result : Text) :
  (∀ blocks : List Block, (∀ b ∈ blocks, b.WellFormed) →
      Text.lines (Text.trim code) = blocks.flatMap Block.lines →
      definitions code = (blocks.filter fun b => b.part = .definition).map Block.lines)
    ∧ ∃ top bottom,
      Text.rows ((split code).program result) = top ++ "#![allow(unused)]".toList :: bottom
        ∧ top.map Text.bare = ((definitions code).flatten.filter isInnerAttribute).map Text.bare
        ∧ (∀ row ∈ bottom, isInnerAttribute row = false)
        ∧ ∀ d ∈ definitions code,
          Stand (d.filter isInnerAttribute) top
            ∧ Stand (d.filter fun line => !isInnerAttribute line) bottom
            ∧ (Stand d (Text.rows ((split code).program result))
              ↔ (∀ line ∈ d, isInnerAttribute line = true)
                ∨ ∀ line ∈ d, isInnerAttribute line = false)
  := by
  refine ⟨fun _ => definitions_of_blocks, ?_⟩
  obtain ⟨above, below, rows, above_plain, below_plain⟩ := hoists_program noEntryPoint result
  have read := map_bare_lines_definitions noEntryPoint
  have attributes : (split code).groups.attributes.map Text.bare
      = ((definitions code).flatten.filter isInnerAttribute).map Text.bare :=
    map_bare_filter read isInnerAttribute_bare
  have items : (split code).groups.items.map Text.bare
      = ((definitions code).flatten.filter fun line => !isInnerAttribute line).map Text.bare :=
    map_bare_filter read fun line => congrArg not (isInnerAttribute_bare line)
  have top_inner : ∀ row ∈ (split code).groups.attributes, isInnerAttribute row = true :=
    fun row h => (List.mem_filter.mp h).2
  have items_plain : ∀ row ∈ (split code).groups.items, isInnerAttribute row = false :=
    fun row h => by simpa using (List.mem_filter.mp h).2
  have bottom_plain : ∀ row ∈ above ++ (split code).groups.items ++ below,
      isInnerAttribute row = false := by
    simp only [List.forall_mem_append]
    exact ⟨⟨above_plain, items_plain⟩, below_plain⟩
  refine ⟨_, _, rows, attributes, bottom_plain, ?_⟩
  intro d stands
  have inside : d <:+: (definitions code).flatten := List.infix_of_mem_flatten stands
  have hoisted : Stand (d.filter isInnerAttribute) (split code).groups.attributes := by
    rw [Stand, attributes]
    exact (inside.filter _).map _
  have left : Stand (d.filter fun line => !isInnerAttribute line)
      (above ++ (split code).groups.items ++ below) := by
    rw [Stand, List.map_append, List.map_append, items]
    exact ((inside.filter _).map _).trans (List.infix_append _ _ _)
  refine ⟨hoisted, left, ?_⟩
  rw [rows]
  constructor
  case mp => exact (isDefinition_of_mem stands).uniform_of_stand top_inner bottom_plain
  case mpr =>
    rintro (all | none)
    · rw [List.filter_eq_self.mpr all] at hoisted
      rw [Stand, List.map_append]
      exact hoisted.trans (List.prefix_append _ _).isInfix
    · rw [List.filter_eq_self.mpr (by simpa using none)] at left
      rw [Stand, List.append_cons, List.map_append]
      exact left.trans (List.suffix_append _ _).isInfix

/-- A fragment with inner attributes on one line, over several lines and in an item. -/
def configured : List Block := [
  .attributes ["#![allow(dead_code)]".toList],
  .attributes ["#![allow(".toList, "    unused_mut".toList, ")]".toList],
  .item ["mod m \x7b".toList, "    #![allow(missing_docs)]".toList, "\x7d".toList],
  .item ["fn one() -> u8 \x7b".toList, "    1".toList, "\x7d".toList],
  .statements ["one()".toList]]

theorem program_definitions_configured :
  definesEntryPoint (Text.trim (Text.join ['\n'] (configured.flatMap Block.lines))) = false
    ∧ definitions (Text.join ['\n'] (configured.flatMap Block.lines))
      = (configured.filter fun b => b.part = .definition).map Block.lines
    ∧ ∃ rows, rows = Text.rows ((split (Text.join ['\n'] (configured.flatMap Block.lines))).program
        "result".toList)
      ∧ Stand ["#![allow(dead_code)]".toList] rows
      ∧ ¬Stand ["#![allow(".toList, "    unused_mut".toList, ")]".toList] rows
      ∧ ¬Stand ["mod m \x7b".toList, "    #![allow(missing_docs)]".toList, "\x7d".toList] rows
      ∧ Stand ["fn one() -> u8 \x7b".toList, "    1".toList, "\x7d".toList] rows
  := by
  have noEntryPoint :
      definesEntryPoint (Text.trim (Text.join ['\n'] (configured.flatMap Block.lines))) = false := by
    decide +kernel
  obtain ⟨blocks, top, bottom, -, -, -, each⟩ := program_definitions noEntryPoint "result".toList
  have blocks := blocks configured (by decide +kernel) (by decide +kernel)
  rw [blocks] at each
  refine ⟨noEntryPoint, blocks, _, rfl, ?_, ?_, ?_, ?_⟩
  · exact (each _ (by decide +kernel)).2.2.mpr (by decide +kernel)
  · exact mt (each _ (by decide +kernel)).2.2.mp (by decide +kernel)
  · exact mt (each _ (by decide +kernel)).2.2.mp (by decide +kernel)
  · exact (each _ (by decide +kernel)).2.2.mpr (by decide +kernel)

/-- Not every definition of a fragment of blocks stands in one piece. -/
theorem not_definitions_whole :
  ¬∀ (code result : Text) (blocks : List Block), definesEntryPoint (Text.trim code) = false →
    (∀ b ∈ blocks, b.WellFormed) → Text.lines (Text.trim code) = blocks.flatMap Block.lines →
    ∀ b ∈ blocks, b.part = .definition → Stand b.lines (Text.rows ((split code).program result))
  := by
  intro whole
  have stands := whole "#![allow(\n    dead_code\n)]\nstruct S;\n1".toList "result".toList
    [.attributes ["#![allow(".toList, "    dead_code".toList, ")]".toList],
      .item ["struct S;".toList], .statements ["1".toList]]
    (by decide +kernel) (by decide +kernel) (by decide +kernel) _ List.mem_cons_self rfl
  revert stands
  decide +kernel

end Fragment

end NotebookEngine
