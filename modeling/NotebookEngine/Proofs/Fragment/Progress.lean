import Mathlib.Algebra.Ring.Int.Defs
import Mathlib.Data.List.Basic
import NotebookEngine.Proofs.Fragment.Lines
import NotebookEngine.Proofs.Text.Lines

/-!
# The splitting, line by line

The splitting goes through lines that all go to one part (`Progress.Sends`). After lines the depth has
changed by the braces in them (`Progress.depth_after`), and an attribute is open if it began in them and
no line ended it (`Progress.inAttribute_after`). An attribute goes to the definitions up to the first
line that ends with its bracket (`sends_attributes`), an item up to its end once it has begun
(`Continues.sends_from`), and all other lines go to the body (`sends_statements`).
-/

namespace NotebookEngine

namespace Fragment

/-! ### Lines -/

/-- The braces that lines open less those that they close. -/
def net (lines : List Text) : Int :=
  (lines.map fun line => (scan line).delta).sum

/-- The code of a line, without the blanks before a comment. -/
def codeOf (line : Text) : Text :=
  Text.trimEnd (scan line).code

/-- The line begins an attribute. -/
def IsAttributeLine (line : Text) : Prop :=
  startsAttribute (Text.trim line) = true

/-- The line begins an item. -/
def IsItemLine (line : Text) : Prop :=
  startsItem (Text.trim line) = true

/-- The code of the line ends with the bracket of an attribute. -/
def EndsAttribute (line : Text) : Prop :=
  Text.endsWith (codeOf line) [']'] = true

/-- The code of the line ends as that of an item does. -/
def EndsItem (line : Text) : Prop :=
  endsItem (codeOf line) = true

-- Whether lines are of a kind is decided by looking at each of them in its place.
section Decidable

/-- The ways to cut lines at one of them: those before it, the line, and those after it. -/
def cuts : List Text → List (List Text × Text × List Text)
  | [] => []
  | line :: rest => ([], line, rest) :: (cuts rest).map fun c => (line :: c.1, c.2)

theorem mem_cuts {lines before after : List Text} {line : Text} :
  (before, line, after) ∈ cuts lines ↔ lines = before ++ line :: after
  := by
  induction lines generalizing before with
  | nil => simp [cuts]
  | cons first rest ih => cases before <;> simp [cuts, ih, eq_comm, and_comm]

theorem forall_cuts {lines : List Text} {p : List Text → Text → List Text → Prop} :
  (∀ c ∈ cuts lines, p c.1 c.2.1 c.2.2)
    ↔ ∀ before line after, lines = before ++ line :: after → p before line after
  := by
  constructor
  · intro all before line after apart
    exact all (before, line, after) (mem_cuts.mpr apart)
  · rintro all ⟨before, line, after⟩ cut
    exact all before line after (mem_cuts.mp cut)

instance (line : Text) : Decidable (IsAttributeLine line) :=
  inferInstanceAs (Decidable (_ = true))

instance (line : Text) : Decidable (IsItemLine line) :=
  inferInstanceAs (Decidable (_ = true))

instance (line : Text) : Decidable (EndsAttribute line) :=
  inferInstanceAs (Decidable (_ = true))

instance (line : Text) : Decidable (EndsItem line) :=
  inferInstanceAs (Decidable (_ = true))

end Decidable

theorem net_concat (ls : List Text) (line : Text) :
  net (ls ++ [line]) = net ls + (scan line).delta
  := by
  simp [net]

/-- No line begins both an attribute and an item. -/
theorem not_isItemLine {line : Text} (begins : IsAttributeLine line) :
  ¬IsItemLine line
  := by
  obtain ⟨s, shape⟩ : ∃ s, Text.trim line = '#' :: s := by
    rw [IsAttributeLine, startsAttribute, Bool.or_eq_true, Text.startsWith, Text.startsWith,
      List.isPrefixOf_iff_prefix, List.isPrefixOf_iff_prefix] at begins
    rcases begins with ⟨s, same⟩ | ⟨s, same⟩
    · exact ⟨_, same.symm⟩
    · exact ⟨_, same.symm⟩
  have noItem : startsItem ('#' :: s) = false := rfl
  rw [IsItemLine, shape, noItem]
  nofun

/-! ### From line to line -/

/-- The splitting goes through lines from one progress to another, and all of them go to one part. -/
inductive Progress.Sends (part : Part) : Progress → List Text → Progress → Prop
  | nil {p : Progress} : Sends part p [] p
  | cons {p q : Progress} {line : Text} {rest : List Text} (goes : (p.next line).1 = part)
    (sends : Sends part (p.next line).2 rest q) : Sends part p (line :: rest) q

theorem Progress.Sends.place_append {part : Part} {p q : Progress} {lines : List Text}
    (sends : p.Sends part lines q) (rest : List Text) :
  p.place (lines ++ rest) = lines.map (part, ·) ++ q.place rest
  := by
  induction sends with
  | nil => rfl
  | cons goes sends ih =>
      rw [List.cons_append, Progress.place]
      simp only [goes, ih]
      rfl

section Next

variable {p : Progress} {line : Text}

/-- A line that begins an attribute, or stands within one. -/
theorem Progress.next_attribute (within : p.inAttribute = true ∨ IsAttributeLine line) :
  p.next line
    = (.definition, ⟨p.depth + (scan line).delta, !Text.endsWith (codeOf line) [']'], p.inDefinition⟩)
  := by
  have within : (p.inAttribute || startsAttribute (Text.trim line)) = true := by
    rwa [Bool.or_eq_true]
  rw [next]
  simp only [within, ↓reduceIte]
  rfl

/-- A line that begins an item, or stands within one and begins no attribute. -/
theorem Progress.next_item (noAttribute : p.inAttribute = false) (plain : ¬IsAttributeLine line)
    (within : p.inDefinition = true ∨ IsItemLine line) :
  p.next line
    = (.definition, ⟨p.depth + (scan line).delta, false,
      decide (0 < p.depth + (scan line).delta) || !endsItem (codeOf line)⟩)
  := by
  have outside : (p.inAttribute || startsAttribute (Text.trim line)) = false := by
    rw [noAttribute, Bool.false_or]
    simpa [IsAttributeLine] using plain
  have within : (p.inDefinition || startsItem (Text.trim line)) = true := by
    rwa [Bool.or_eq_true]
  rw [next]
  simp only [outside, within, Bool.false_eq_true, ↓reduceIte]
  rfl

/-- A line of statements. -/
theorem Progress.next_statement (noAttribute : p.inAttribute = false)
    (noDefinition : p.inDefinition = false) (plain : ¬IsItemLine line ∧ ¬IsAttributeLine line) :
  p.next line = (.body, ⟨p.depth + (scan line).delta, false, false⟩)
  := by
  obtain ⟨noItem, plain⟩ := plain
  rw [IsItemLine, Bool.not_eq_true] at noItem
  rw [IsAttributeLine, Bool.not_eq_true] at plain
  rw [next]
  simp only [noAttribute, noDefinition, noItem, plain, Bool.or_self, Bool.false_eq_true, ↓reduceIte]

end Next

/-- Lines that begin neither an item nor an attribute go to the body, where nothing is open. -/
theorem sends_statements {lines : List Text}
    (plain : ∀ line ∈ lines, ¬IsItemLine line ∧ ¬IsAttributeLine line) (depth : Int) :
  Progress.Sends .body ⟨depth, false, false⟩ lines ⟨depth + net lines, false, false⟩
  := by
  induction lines generalizing depth with
  | nil =>
      rw [show depth + net [] = depth from Int.add_zero depth]
      exact .nil
  | cons line lines ih =>
      rw [List.forall_mem_cons] at plain
      have next := Progress.next_statement (p := ⟨depth, false, false⟩) rfl rfl plain.1
      refine .cons (by rw [next]) ?_
      rw [next]
      have sends := ih plain.2 (depth + (scan line).delta)
      rwa [show depth + (scan line).delta + net lines = depth + net (line :: lines) from
        Int.add_assoc _ _ _] at sends

/-! ### The progress after lines -/

/-- The progress after lines. -/
def Progress.after (p : Progress) (lines : List Text) : Progress :=
  lines.foldl (fun p line => (p.next line).2) p

theorem Progress.after_cons (p : Progress) (line : Text) (rest : List Text) :
  p.after (line :: rest) = (p.next line).2.after rest
  := rfl

theorem Progress.Sends.after {part : Part} {p q : Progress} {lines : List Text}
    (sends : p.Sends part lines q) :
  p.after lines = q
  := by
  induction sends with
  | nil => rfl
  | cons _ _ ih => exact ih

theorem Progress.depth_next (p : Progress) (line : Text) :
  (p.next line).2.depth = p.depth + (scan line).delta
  := by
  rw [next]
  split
  · rfl
  · split <;> rfl

theorem Progress.depth_after (p : Progress) (lines : List Text) :
  (p.after lines).depth = p.depth + net lines
  := by
  induction lines generalizing p with
  | nil => exact (Int.add_zero p.depth).symm
  | cons line rest ih =>
      rw [after_cons, ih, depth_next, Int.add_assoc]
      rfl

/-- After a line an attribute is open if one was open or begins there, and the line does not end it. -/
theorem Progress.inAttribute_next (p : Progress) (line : Text) :
  (p.next line).2.inAttribute = true
    ↔ (p.inAttribute = true ∨ IsAttributeLine line) ∧ ¬EndsAttribute line
  := by
  by_cases within : p.inAttribute = true ∨ IsAttributeLine line
  · rw [next_attribute within]
    simp [within, EndsAttribute]
  · obtain ⟨noAttribute, plain⟩ := not_or.mp within
    rw [Bool.not_eq_true] at noAttribute
    by_cases item : p.inDefinition = true ∨ IsItemLine line
    · rw [next_item noAttribute plain item]
      simp [within]
    · obtain ⟨noDefinition, noItem⟩ := not_or.mp item
      rw [Bool.not_eq_true] at noDefinition
      rw [next_statement noAttribute noDefinition ⟨noItem, plain⟩]
      simp [within]

/-- An attribute begins in the lines that no line from there on ends. -/
def Unclosed (lines : List Text) : Prop :=
  ∃ before line after, lines = before ++ line :: after ∧ IsAttributeLine line
    ∧ ∀ l ∈ line :: after, ¬EndsAttribute l

instance (lines : List Text) : Decidable (Unclosed lines) :=
  decidable_of_iff
    (∃ c ∈ cuts lines, IsAttributeLine c.2.1 ∧ ∀ l ∈ c.2.1 :: c.2.2, ¬EndsAttribute l)
    ⟨fun ⟨c, cut, begins, goesOn⟩ => ⟨c.1, c.2.1, c.2.2, mem_cuts.mp cut, begins, goesOn⟩,
      fun ⟨before, line, after, apart, begins, goesOn⟩ =>
        ⟨(before, line, after), mem_cuts.mpr apart, begins, goesOn⟩⟩

theorem unclosed_cons {line : Text} {rest : List Text} :
  Unclosed (line :: rest)
    ↔ (IsAttributeLine line ∧ ∀ l ∈ line :: rest, ¬EndsAttribute l) ∨ Unclosed rest
  := by
  constructor
  · rintro ⟨before, opener, after, apart, begins, goesOn⟩
    cases before with
    | nil =>
        obtain ⟨rfl, rfl⟩ := List.cons.inj apart
        exact .inl ⟨begins, goesOn⟩
    | cons first before =>
        exact .inr ⟨before, opener, after, (List.cons.inj apart).2, begins, goesOn⟩
  · rintro (⟨begins, goesOn⟩ | ⟨before, opener, after, rfl, begins, goesOn⟩)
    · exact ⟨[], line, rest, rfl, begins, goesOn⟩
    · exact ⟨line :: before, opener, after, rfl, begins, goesOn⟩

/-- After lines an attribute is open if one was open that no line ends, or if one begins in them that is
left open. -/
theorem Progress.inAttribute_after (p : Progress) (lines : List Text) :
  (p.after lines).inAttribute = true
    ↔ (p.inAttribute = true ∧ ∀ line ∈ lines, ¬EndsAttribute line) ∨ Unclosed lines
  := by
  induction lines generalizing p with
  | nil => simp [after, Unclosed]
  | cons line rest ih =>
      rw [after_cons, ih, inAttribute_next, unclosed_cons]
      simp only [List.forall_mem_cons]
      tauto

theorem Progress.Sends.inAttribute_iff {part : Part} {q : Progress} {lines : List Text}
    (sends : Progress.Sends part {} lines q) :
  q.inAttribute = true ↔ Unclosed lines
  := by
  rw [← sends.after, inAttribute_after]
  exact or_iff_right fun within => Bool.false_ne_true within.1

theorem not_unclosed_of_ends {lines : List Text} {last : Text} (ends : EndsAttribute last) :
  ¬Unclosed (lines ++ [last])
  := by
  rintro ⟨before, line, after, apart, -, goesOn⟩
  have final := congrArg List.getLast? apart
  rw [List.getLast?_concat, List.getLast?_append_of_ne_nil _ (List.cons_ne_nil _ _)] at final
  exact goesOn last (List.mem_of_getLast? final.symm) ends

/-! ### The lines after attributes -/

/-- What follows the attributes at the front of lines, where an attribute goes on to the first line that
ends with its bracket; `within` such an attribute at the first line or not. -/
def afterAttributes : (within : Bool) → List Text → List Text
  | _, [] => []
  | within, line :: rest =>
    if within || startsAttribute (Text.trim line) then
      afterAttributes (!Text.endsWith (codeOf line) [']']) rest
    else line :: rest

section AfterAttributes

variable {p : Progress} {line : Text} {rest : List Text}

theorem afterAttributes_within (within : p.inAttribute = true ∨ IsAttributeLine line) :
  afterAttributes p.inAttribute (line :: rest) = afterAttributes (p.next line).2.inAttribute rest
  := by
  rw [Progress.next_attribute within]
  rw [IsAttributeLine, ← Bool.or_eq_true] at within
  rw [afterAttributes, if_pos within]

theorem afterAttributes_beyond (beyond : ¬(p.inAttribute = true ∨ IsAttributeLine line)) :
  afterAttributes p.inAttribute (line :: rest) = line :: rest
  := by
  rw [IsAttributeLine, ← Bool.or_eq_true] at beyond
  rw [afterAttributes, if_neg beyond]

end AfterAttributes

/-- An attribute goes on through lines that do not end with its bracket. -/
theorem afterAttributes_of_goesOn {lines : List Text} (goesOn : ∀ line ∈ lines, ¬EndsAttribute line)
    (rest : List Text) :
  afterAttributes true (lines ++ rest) = afterAttributes true rest
  := by
  induction lines with
  | nil => rfl
  | cons line lines ih =>
      rw [List.forall_mem_cons, EndsAttribute, Bool.not_eq_true] at goesOn
      rw [List.cons_append, afterAttributes, goesOn.1]
      exact ih goesOn.2

theorem afterAttributes_of_ends {line : Text} (ends : EndsAttribute line) (rest : List Text) :
  afterAttributes true (line :: rest) = afterAttributes false rest
  := by
  rw [EndsAttribute] at ends
  rw [afterAttributes, ends]
  rfl

theorem afterAttributes_of_plain {lines : List Text}
    (plain : ∀ line ∈ lines.head?, ¬IsAttributeLine line) :
  afterAttributes false lines = lines
  := by
  cases lines with
  | nil => rfl
  | cons line rest =>
      apply afterAttributes_beyond (p := {})
      rintro (within | begins)
      · contradiction
      · exact plain line rfl begins

theorem afterAttributes_of_begins {lines : List Text} (begins : ∀ line ∈ lines.head?, IsAttributeLine line) :
  afterAttributes false lines = afterAttributes true lines
  := by
  cases lines with
  | nil => rfl
  | cons line rest =>
      have begins : startsAttribute (Text.trim line) = true := begins line rfl
      rw [afterAttributes, afterAttributes, begins, Bool.or_true, Bool.or_true]

/-- The attributes at the front go to the definitions, and begin no other definition. -/
theorem sends_attributes (p : Progress) (lines : List Text) :
  ∃ taken q, lines = taken ++ afterAttributes p.inAttribute lines ∧ p.Sends .definition taken q
    ∧ q.inDefinition = p.inDefinition
    ∧ ∀ line ∈ (afterAttributes p.inAttribute lines).head?,
      q.inAttribute = false ∧ ¬IsAttributeLine line
  := by
  induction lines generalizing p with
  | nil => exact ⟨[], p, rfl, .nil, rfl, by simp [afterAttributes]⟩
  | cons line rest ih =>
      by_cases within : p.inAttribute = true ∨ IsAttributeLine line
      case pos =>
        have next := Progress.next_attribute within
        obtain ⟨taken, q, apart, sends, inDefinition, closed⟩ := ih (p.next line).2
        rw [afterAttributes_within within]
        refine ⟨line :: taken, q, ?_, .cons (by rw [next]) sends, ?_, closed⟩
        · rw [List.cons_append, ← apart]
        · rw [inDefinition, next]
      case neg =>
        rw [afterAttributes_beyond within]
        refine ⟨[], p, rfl, .nil, rfl, ?_⟩
        simpa using within

/-! ### Lines of one item -/

/-- Before the last of the lines an item is not ended: braces are open, or the code of the line does not
end as that of an item does. -/
def Continues (lines : List Text) : Prop :=
  ∀ before line after, lines = before ++ line :: after → after ≠ [] →
    0 < net (before ++ [line]) ∨ ¬EndsItem line

/-- Lines of an item, whatever it begins with. -/
structure Spans (lines : List Text) : Prop where
  some : lines ≠ []
  continues : Continues lines
  closing : ∀ line ∈ lines.getLast?, EndsItem line
  level : net lines = 0

/-- Lines in which braces are open after every line but the last, and none after that. -/
structure Encloses (lines : List Text) : Prop where
  some : lines ≠ []
  inside : ∀ before line after, lines = before ++ line :: after → after ≠ [] →
    0 < net (before ++ [line])
  level : net lines = 0

theorem Encloses.continues {lines : List Text} (encloses : Encloses lines) :
  Continues lines
  := fun before line after apart more => .inl (encloses.inside before line after apart more)

theorem Encloses.spans {lines : List Text} (encloses : Encloses lines)
    (closing : ∀ line ∈ lines.getLast?, EndsItem line) :
  Spans lines
  := ⟨encloses.some, encloses.continues, closing, encloses.level⟩

instance (lines : List Text) : Decidable (Spans lines) :=
  decidable_of_iff (lines ≠ []
      ∧ (∀ c ∈ cuts lines, c.2.2 ≠ [] → 0 < net (c.1 ++ [c.2.1]) ∨ ¬EndsItem c.2.1)
      ∧ (∀ line ∈ lines.getLast?, EndsItem line) ∧ net lines = 0)
    ⟨fun ⟨present, continues, closing, level⟩ => ⟨present, forall_cuts.mp continues, closing, level⟩,
      fun ⟨present, continues, closing, level⟩ => ⟨present, forall_cuts.mpr continues, closing, level⟩⟩

instance (lines : List Text) : Decidable (Encloses lines) :=
  decidable_of_iff (lines ≠ [] ∧ (∀ c ∈ cuts lines, c.2.2 ≠ [] → 0 < net (c.1 ++ [c.2.1]))
      ∧ net lines = 0)
    ⟨fun ⟨present, inside, level⟩ => ⟨present, forall_cuts.mp inside, level⟩,
      fun ⟨present, inside, level⟩ => ⟨present, forall_cuts.mpr inside, level⟩⟩

theorem not_endsAttribute {line : Text} (ends : EndsItem line) :
  ¬EndsAttribute line
  := by
  rw [EndsItem, endsItem, Bool.or_eq_true, Text.endsWith_singleton, Text.endsWith_singleton] at ends
  rw [EndsAttribute, Text.endsWith_singleton]
  rcases ends with ends | ends <;> simp [ends]

/-- From within an item, or from before it if it begins as an item after its attributes, all lines of it
go to the definitions. If it ends as an item does, nothing is open after it but braces or an attribute
that is left so. -/
theorem Continues.sends_from {lines : List Text} (continues : Continues lines)
    {before rest : List Text} (apart : lines = before ++ rest) (some : rest ≠ []) {p : Progress}
    (level : p.depth = net before)
    (begun : p.inDefinition = true
      ∨ ∀ line ∈ (afterAttributes p.inAttribute rest).head?, IsItemLine line) :
  ∃ q, p.Sends .definition rest q ∧ ((∀ line ∈ lines.getLast?, EndsItem line) →
    q = ⟨net lines, false, decide (0 < net lines)⟩ ∨ q.inAttribute = true)
  := by
  induction rest generalizing before p with
  | nil => contradiction
  | cons line rest ih =>
      have further := apart.trans (List.append_cons before line rest)
      by_cases within : p.inAttribute = true ∨ IsAttributeLine line
      case pos =>
        have next := Progress.next_attribute within
        rw [level, ← net_concat] at next
        cases rest with
        | nil =>
            refine ⟨_, .cons (by rw [next]) .nil, fun closing => .inr ?_⟩
            have ends := closing line (by rw [apart]; exact List.getLast?_concat)
            exact (Progress.inAttribute_next p line).mpr ⟨within, not_endsAttribute ends⟩
        | cons =>
            rw [afterAttributes_within within] at begun
            have begun := begun.imp_left fun begun =>
              show (p.next line).2.inDefinition = true by rw [next, begun]
            obtain ⟨q, sends, closed⟩ := ih further (List.cons_ne_nil _ _) (by rw [next]) begun
            exact ⟨q, .cons (by rw [next]) sends, closed⟩
      case neg =>
        rw [afterAttributes_beyond within] at begun
        obtain ⟨noAttribute, plain⟩ := not_or.mp within
        rw [Bool.not_eq_true] at noAttribute
        have next := Progress.next_item noAttribute plain (begun.imp_right fun item => item line rfl)
        rw [level, ← net_concat] at next
        cases rest with
        | nil =>
            refine ⟨_, .cons (by rw [next]) .nil, fun closing => .inl ?_⟩
            have ends : endsItem (codeOf line) = true :=
              closing line (by rw [apart]; exact List.getLast?_concat)
            rw [next, ← apart, ends, Bool.not_true, Bool.or_false]
        | cons =>
            have goesOn : (decide (0 < net (before ++ [line])) || !endsItem (codeOf line)) = true := by
              simpa [EndsItem] using continues before line _ apart (List.cons_ne_nil _ _)
            rw [goesOn] at next
            obtain ⟨q, sends, closed⟩ := ih further (List.cons_ne_nil _ _)
              (p := (p.next line).2) (by rw [next]) (.inl (by rw [next]))
            exact ⟨q, .cons (by rw [next]) sends, closed⟩

/-- All lines of an item go to the definitions, if it begins as one after its attributes. -/
theorem Spans.sends {lines : List Text} (spans : Spans lines)
    (begins : ∀ line ∈ (afterAttributes false lines).head?, IsItemLine line) :
  ∃ q, Progress.Sends .definition {} lines q ∧ (q = {} ∨ q.inAttribute = true)
  := by
  obtain ⟨q, sends, closed⟩ := spans.continues.sends_from (List.nil_append lines).symm spans.some
    (p := {}) rfl (.inr begins)
  have closed := closed spans.closing
  rw [spans.level] at closed
  exact ⟨q, sends, closed⟩

/-- Where nothing is open, the definitions go on with a line that begins one. -/
theorem begins_of_head {p : Progress} (noAttribute : p.inAttribute = false)
    (noDefinition : p.inDefinition = false) (lines : List Text) :
  ∀ line ∈ (linesOf .definition (p.place lines)).head?, IsItemLine line ∨ IsAttributeLine line
  := by
  induction lines generalizing p with
  | nil => nofun
  | cons line rest ih =>
      by_cases plain : ¬IsItemLine line ∧ ¬IsAttributeLine line
      case pos =>
        have next := Progress.next_statement noAttribute noDefinition plain
        rw [linesOf_place_cons, next, if_neg nofun]
        exact ih rfl rfl
      case neg =>
        have begins : IsItemLine line ∨ IsAttributeLine line := by tauto
        have goes : (p.next line).1 = .definition := by
          by_cases attributed : IsAttributeLine line
          · rw [Progress.next_attribute (.inr attributed)]
          · rw [Progress.next_item noAttribute attributed (.inr (begins.resolve_right attributed))]
        rw [linesOf_place_cons, if_pos goes]
        simpa using begins

end Fragment

end NotebookEngine
