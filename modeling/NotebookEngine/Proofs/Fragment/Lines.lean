import Mathlib.Data.List.Basic
import NotebookEngine.Fragment.Program
import NotebookEngine.Proofs.Text.Lines

/-!
# Lines of a compiled program

Every line of a fragment stands in its program once, unaltered: the inner attributes first, then the
other lines of the definitions, then the body, each group in the order of the fragment
(`program_lines`). A definition that is not ended takes the lines that follow (`Progress.isOpen`), so
the definitions end with the line of a definition that is not empty, and they come apart again into
the lines they were joined from.
-/

namespace NotebookEngine

namespace Text

theorem InLine.append {s t : Text} (hs : InLine s) (ht : InLine t) :
  InLine (s ++ t)
  := by
  simp only [InLine, List.mem_append, not_or]
  exact ⟨⟨hs.1, ht.1⟩, ⟨hs.2, ht.2⟩⟩

theorem inLine_hexDigits (n : Nat) :
  InLine (hexDigits n)
  := by
  have digit : ∀ n < 16, Nat.digitChar n ≠ '\n' ∧ Nat.digitChar n ≠ '\r' := by decide
  have single : ∀ n < 16, InLine [Nat.digitChar n] := by
    intro n small
    simpa only [InLine, List.mem_singleton, ne_comm] using digit n small
  induction n using Nat.strongRecOn with
  | ind n ih =>
      rw [hexDigits, Nat.toDigits_eq_if (by decide)]
      split
      case isTrue small => exact single n small
      case isFalse large =>
        apply InLine.append
        · exact ih (n / 16) (by omega)
        · exact single (n % 16) (by omega)

theorem inLine_quoteChar (c : Char) :
  InLine (quoteChar c)
  := by
  unfold quoteChar
  repeat' split
  case isFalse.isFalse.isFalse.isFalse.isFalse.isFalse.isTrue =>
    apply InLine.append
    · apply InLine.append
      · decide
      · apply inLine_hexDigits
    · decide
  case isFalse.isFalse.isFalse.isFalse.isFalse.isFalse.isFalse newline ret _ _ _ =>
    simp only [InLine, List.mem_singleton]
    exact ⟨Ne.symm newline, Ne.symm ret⟩
  all_goals decide

/-- A quoted text stands in one line, whatever is quoted. -/
theorem inLine_quote (s : Text) :
  InLine (quote s)
  := by
  have chars : InLine (s.flatMap quoteChar) := by
    simp only [InLine, List.mem_flatMap, not_exists, not_and]
    exact ⟨fun c _ => (inLine_quoteChar c).1, fun c _ => (inLine_quoteChar c).2⟩
  have opened : InLine (['"'] ++ s.flatMap quoteChar) := InLine.append (by decide) chars
  apply InLine.append opened (by decide)

end Text

namespace Fragment

/-! ### Where lines go -/

/-- The lines of the two parts are all the lines. -/
theorem linesOf_perm (placed : List (Part × Text)) :
  (linesOf .definition placed ++ linesOf .body placed).Perm (placed.map Prod.snd)
  := by
  have other : linesOf .body placed
      = (placed.filter fun l => !decide (l.1 = .definition)).map Prod.snd := by
    unfold linesOf
    congr
    funext l
    cases l.1 <;> rfl
  rw [other, linesOf, ← List.map_append]
  apply List.Perm.map
  apply List.filter_append_perm

theorem linesOf_sublist (part : Part) (placed : List (Part × Text)) :
  (linesOf part placed).Sublist (placed.map Prod.snd)
  := List.filter_sublist.map Prod.snd

theorem linesOf_place_cons (part : Part) (p : Progress) (line : Text) (rest : List Text) :
  linesOf part (p.place (line :: rest))
    = if (p.next line).1 = part then line :: linesOf part ((p.next line).2.place rest)
      else linesOf part ((p.next line).2.place rest)
  := by
  unfold linesOf
  rw [Progress.place, List.filter_cons]
  split <;> simp_all

/-- A line goes to the body only when it begins no definition. -/
theorem Progress.next_eq_body {p : Progress} {line : Text} (body : (p.next line).1 = .body) :
  startsItem (Text.trim line) = false ∧ startsAttribute (Text.trim line) = false
  := by
  unfold next at body
  simp only at body
  split at body
  case isTrue => nomatch body
  case isFalse noAttribute =>
    split at body
    case isTrue => nomatch body
    case isFalse item =>
      rw [Bool.or_eq_true, not_or, Bool.not_eq_true, Bool.not_eq_true] at noAttribute item
      exact ⟨item.2, noAttribute.2⟩

theorem plain_of_mem_body {p : Progress} {lines : List Text} {line : Text}
    (h : line ∈ linesOf .body (p.place lines)) :
  startsItem (Text.trim line) = false ∧ startsAttribute (Text.trim line) = false
  := by
  induction lines generalizing p with
  | nil => contradiction
  | cons first rest ih =>
      rw [linesOf_place_cons] at h
      split at h
      case isTrue body =>
        rcases List.mem_cons.mp h with rfl | h
        · exact Progress.next_eq_body body
        · exact ih h
      case isFalse => exact ih h

/-! ### The end of the definitions -/

/-- An attribute or a definition is still open. -/
def Progress.isOpen (p : Progress) : Bool :=
  p.inAttribute || p.inDefinition

/-- An open definition takes the next line. -/
theorem Progress.next_of_isOpen {p : Progress} (opened : p.isOpen = true) (line : Text) :
  (p.next line).1 = .definition
  := by
  unfold next
  simp only
  split
  case isTrue => rfl
  case isFalse noAttribute =>
    have item : p.inDefinition = true := by
      rw [isOpen, Bool.or_eq_true] at opened
      apply opened.resolve_left
      intro inAttribute
      exact noAttribute (by rw [inAttribute, Bool.true_or])
    rw [item, Bool.true_or, if_pos rfl]

/-- An empty line does not end a definition. -/
theorem Progress.isOpen_next_nil {p : Progress} (definition : (p.next []).1 = .definition) :
  (p.next []).2.isOpen = true
  := by
  have noCode : Text.trimEnd (scan []).code = [] := rfl
  unfold next at definition ⊢
  simp only [noCode] at definition ⊢
  split at definition
  case isTrue attributed =>
    rw [if_pos attributed]
    rfl
  case isFalse noAttribute =>
    split at definition
    case isTrue item =>
      rw [if_neg noAttribute, if_pos item]
      simp [isOpen, endsItem, Text.endsWith]
    case isFalse => contradiction

/-- When the last line is not empty, neither is the last line of the definitions. -/
theorem getLast?_definitions {lines : List Text} (last : lines.getLast? ≠ some []) (p : Progress) :
  (linesOf .definition (p.place lines)).getLast? ≠ some []
  := by
  induction lines generalizing p with
  | nil => nofun
  | cons line rest ih =>
      have rest_last : rest.getLast? ≠ some [] := by
        intro empty
        apply last
        rw [List.getLast?_cons, empty, Option.getD_some]
      have ih := ih rest_last (p.next line).2
      rw [linesOf_place_cons]
      split
      case isFalse => exact ih
      case isTrue definition =>
        cases others : linesOf .definition ((p.next line).2.place rest) with
        | cons next more =>
            rw [others] at ih
            rwa [List.getLast?_cons_cons]
        | nil =>
            -- an empty line would leave the definition open, and a line to follow it
            intro empty
            obtain rfl : line = [] := by simpa using empty
            cases rest with
            | nil => exact last rfl
            | cons next more =>
                rw [linesOf_place_cons,
                  if_pos (Progress.next_of_isOpen (Progress.isOpen_next_nil definition) next)]
                  at others
                contradiction

/-! ### The groups of lines -/

/-- The lines of a fragment without an entry point, with where they go. -/
def placed (code : Text) : List (Part × Text) :=
  Progress.place {} (Text.lines (Text.trim code))

theorem map_snd_placed (code : Text) :
  (placed code).map Prod.snd = Text.lines (Text.trim code)
  := map_snd_place {} _

/-- The lines of a fragment, by where they stand in its program. -/
structure Groups where
  /-- The inner attributes. -/
  attributes : List Text
  /-- The other lines of the definitions. -/
  items : List Text
  body : List Text

/-- The groups of lines of a fragment without an entry point. -/
def groups (code : Text) : Groups where
  attributes := (linesOf .definition (placed code)).filter isInnerAttribute
  items := (linesOf .definition (placed code)).filter fun line => !isInnerAttribute line
  body := linesOf .body (placed code)

/-- The groups hold the lines of a source, each line once and in the order of the source, and no
line of the body begins a definition. -/
structure Groups.Divide (g : Groups) (source : List Text) : Prop where
  each_once : (g.attributes ++ g.items ++ g.body).Perm source
  attributes_in_order : g.attributes.Sublist source
  items_in_order : g.items.Sublist source
  body_in_order : g.body.Sublist source
  attributes_inner : ∀ line ∈ g.attributes, isInnerAttribute line = true
  items_outer : ∀ line ∈ g.items, isInnerAttribute line = false
  body_plain : ∀ line ∈ g.body,
    startsItem (Text.trim line) = false ∧ startsAttribute (Text.trim line) = false

theorem linesOf_placed_sublist (part : Part) (code : Text) :
  (linesOf part (placed code)).Sublist (Text.lines (Text.trim code))
  := by
  rw [← map_snd_placed]
  apply linesOf_sublist

theorem groups_divide (code : Text) :
  (groups code).Divide (Text.lines (Text.trim code))
  where
  each_once := by
    rw [← map_snd_placed]
    apply List.Perm.trans _ (linesOf_perm (placed code))
    apply List.Perm.append_right
    apply List.filter_append_perm
  attributes_in_order := List.filter_sublist.trans (linesOf_placed_sublist .definition code)
  items_in_order := List.filter_sublist.trans (linesOf_placed_sublist .definition code)
  body_in_order := linesOf_placed_sublist .body code
  attributes_inner := by
    intro line h
    exact (List.mem_filter.mp h).2
  items_outer := by
    intro line h
    simpa using (List.mem_filter.mp h).2
  body_plain := by
    intro line h
    exact plain_of_mem_body h

/-- The items as they stand in a program: an empty line when there are none. -/
def Groups.itemRows (g : Groups) : List Text :=
  if g.items = [] then [[]] else g.items

/-- The lines of a program without a body. -/
def Groups.idleProgram (g : Groups) : List Text :=
  g.attributes
    ++ ["#![allow(unused)]".toList, []]
    ++ g.itemRows
    ++ [[], "fn main() \x7b\x7d".toList]

/-- The last lines of a program that writes a value to the file `result`. -/
def closingLines (result : Text) : List Text :=
  ["    \x7d;".toList,
    "    if let Ok(mut __polycell_out) = std::fs::File::create(".toList ++ Text.quote result
      ++ ") \x7b".toList,
    "        let _ = write!(__polycell_out, \"\x7b:?\x7d\", __polycell_value);".toList,
    "    \x7d".toList,
    "\x7d".toList]

/-- The lines of a program that evaluates a body and writes its value to the file `result`. -/
def Groups.valueProgram (g : Groups) (body : List Text) (result : Text) : List Text :=
  g.attributes
    ++ ["#![allow(unused)]".toList, "use std::io::Write as _;".toList, []]
    ++ g.itemRows
    ++ [[], "fn main() \x7b".toList, "    let __polycell_value = \x7b".toList]
    ++ body
    ++ closingLines result

/-! ### The program of the groups -/

/-- The parts of a fragment without an entry point, by its groups of lines. -/
theorem split_of_noEntryPoint {code : Text}
    (noEntryPoint : definesEntryPoint (Text.trim code) = false) :
  split code =
    { definitions := Text.join ['\n'] (linesOf .definition (placed code))
      body := if (groups code).body.all Text.isBlankText then none
        else some (Text.trim (Text.join ['\n'] (groups code).body))
      hasEntryPoint := false }
  := by
  rw [split, if_neg (by rw [noEntryPoint]; nofun)]
  simp only [Text.isEmpty_trim, Text.isBlankText_join]
  rfl

theorem body_eq_none_iff {code : Text}
    (noEntryPoint : definesEntryPoint (Text.trim code) = false) :
  (split code).body = none ↔ ∀ line ∈ (groups code).body, Text.isBlankText line = true
  := by
  rw [split_of_noEntryPoint noEntryPoint, ← List.all_eq_true]
  split <;> simp_all

theorem inLine_closingLines (result : Text) :
  ∀ line ∈ closingLines result, Text.InLine line
  := by
  have fixed : ∀ line ∈ ["    \x7d;".toList,
      "        let _ = write!(__polycell_out, \"\x7b:?\x7d\", __polycell_value);".toList,
      "    \x7d".toList, "\x7d".toList], Text.InLine line := by
    decide
  have opened : Text.InLine
      ("    if let Ok(mut __polycell_out) = std::fs::File::create(".toList ++ Text.quote result)
    := Text.InLine.append (by decide) (Text.inLine_quote result)
  simp only [List.forall_mem_cons] at fixed
  obtain ⟨first, rest⟩ := fixed
  simp only [closingLines, List.forall_mem_cons]
  exact ⟨first, Text.InLine.append opened (by decide), rest⟩

section

variable {g : Groups} {p : Text → Prop} (fixed : ∀ line, Text.InLine line → p line)
  (definitions : ∀ line ∈ g.attributes ++ g.items, p line)

include fixed definitions

theorem Groups.forall_mem_itemRows :
  ∀ line ∈ g.itemRows, p line
  := by
  unfold itemRows
  split
  case isTrue => exact List.forall_mem_singleton.mpr (fixed [] (by decide))
  case isFalse => exact fun line h => definitions line (List.mem_append_right _ h)

/-- What holds of all lines of the definitions, and of whatever can stand in a line, holds of all lines of
the program without a body. -/
theorem Groups.forall_mem_idleProgram :
  ∀ line ∈ g.idleProgram, p line
  := by
  have items := forall_mem_itemRows fixed definitions
  have opening : ∀ line ∈ ["#![allow(unused)]".toList, []], Text.InLine line := by decide
  have closing : ∀ line ∈ [[], "fn main() \x7b\x7d".toList], Text.InLine line := by decide
  rw [List.forall_mem_append] at definitions
  simp only [Groups.idleProgram, List.forall_mem_append]
  exact ⟨⟨⟨definitions.1, fun line h => fixed line (opening line h)⟩, items⟩,
    fun line h => fixed line (closing line h)⟩

theorem Groups.forall_mem_valueProgram {kept : List Text} (body : ∀ line ∈ kept, p line)
    (result : Text) :
  ∀ line ∈ g.valueProgram kept result, p line
  := by
  have items := forall_mem_itemRows fixed definitions
  have opening : ∀ line ∈ ["#![allow(unused)]".toList, "use std::io::Write as _;".toList, []],
      Text.InLine line := by decide
  have main : ∀ line ∈ [[], "fn main() \x7b".toList, "    let __polycell_value = \x7b".toList],
      Text.InLine line := by decide
  rw [List.forall_mem_append] at definitions
  simp only [Groups.valueProgram, List.forall_mem_append]
  exact ⟨⟨⟨⟨⟨definitions.1, fun line h => fixed line (opening line h)⟩, items⟩,
    fun line h => fixed line (main line h)⟩, body⟩,
    fun line h => fixed line (inLine_closingLines result line h)⟩

end

/-- The lines of an entry point. -/
theorem entryPoint_eq (body result : Text) :
  entryPoint body result
    = Text.ended ["fn main() \x7b".toList, "    let __polycell_value = \x7b".toList]
      ++ body ++ '\n' :: Text.ended (closingLines result)
  := by
  have main : "fn main() \x7b\n    let __polycell_value = \x7b\n".toList
      = Text.ended ["fn main() \x7b".toList, "    let __polycell_value = \x7b".toList] := by
    decide
  have create : "\n    \x7d;\n    if let Ok(mut __polycell_out) = std::fs::File::create(".toList
      = '\n' :: Text.ended ["    \x7d;".toList]
        ++ "    if let Ok(mut __polycell_out) = std::fs::File::create(".toList := by
    decide
  have write : (") \x7b\n        let _ = write!(__polycell_out, \"\x7b:?\x7d\", __polycell_value);\n"
        ++ "    \x7d\n\x7d\n").toList
      = ") \x7b".toList ++ '\n' :: Text.ended
        ["        let _ = write!(__polycell_out, \"\x7b:?\x7d\", __polycell_value);".toList,
          "    \x7d".toList, "\x7d".toList] := by
    decide
  -- unlike `rw`, `delta` does not evaluate the texts in the definition
  delta entryPoint
  simp only [main, create, write, closingLines, Text.ended_cons, Text.ended_nil,
    List.append_assoc, List.cons_append, List.nil_append]

/-- Groups by the lines of the definitions and those of the body. -/
def Groups.ofLines (definitions body : List Text) : Groups where
  attributes := definitions.filter isInnerAttribute
  items := definitions.filter fun line => !isInnerAttribute line
  body := body

theorem attributeLines_eq (definitions : Text) (body : List Text) :
  attributeLines definitions
    = Text.ended ((Groups.ofLines (Text.lines definitions) body).attributes
      ++ ["#![allow(unused)]".toList])
  := by
  rw [attributeLines, Text.ended_append]
  rfl

theorem itemLines_newline (definitions : Text) (body : List Text) :
  itemLines definitions ++ ['\n']
    = Text.ended (Groups.ofLines (Text.lines definitions) body).itemRows
  := by
  rw [itemLines, Groups.itemRows]
  split
  case isTrue none =>
    have none : (Text.lines definitions).filter (fun line => !isInnerAttribute line) = [] := none
    rw [none]
    rfl
  case isFalse some => exact Text.join_concat_newline some

/-- The program of parts without a body. -/
theorem Parts.program_of_none {p : Parts} (noEntryPoint : p.hasEntryPoint = false)
    (none : p.body = none) (body : List Text) (result : Text) :
  p.program result = Text.ended (Groups.ofLines (Text.lines p.definitions) body).idleProgram
  := by
  have closing : "\n\nfn main() \x7b\x7d\n".toList
      = '\n' :: Text.ended [[], "fn main() \x7b\x7d".toList] := rfl
  rw [program, noEntryPoint, none, if_neg nofun]
  simp only [attributeLines_eq _ body, closing, Groups.idleProgram, Text.ended_append,
    ← itemLines_newline _ body, Text.ended_cons, Text.ended_nil, List.append_assoc,
    List.cons_append, List.nil_append]

/-- The program of parts with a body. -/
theorem Parts.program_of_some {p : Parts} (noEntryPoint : p.hasEntryPoint = false) {text : Text}
    (some : p.body = some text) (body : List Text) (result : Text) :
  p.program result
    = Text.ended ((Groups.ofLines (Text.lines p.definitions) body).valueProgram (Text.rows text)
      result)
  := by
  have opening : "use std::io::Write as _;\n\n".toList
      = Text.ended ["use std::io::Write as _;".toList, []] := by decide
  rw [program, noEntryPoint, some, if_neg nofun]
  simp only [entryPoint_eq, attributeLines_eq _ body, opening, Groups.valueProgram,
    Text.ended_append, Text.ended_rows, ← itemLines_newline _ body, Text.ended_cons,
    Text.ended_nil, List.append_assoc, List.cons_append, List.nil_append]

/-- What is kept of the body of a fragment: its lines from the first to the last that is not
blank. -/
theorem trimmed_body {code : Text} (some : (groups code).body.all Text.isBlankText = false) :
  Text.Trimmed (groups code).body
    (Text.rows (Text.trim (Text.join ['\n'] (groups code).body)))
  := by
  have rows : Text.rows (Text.join ['\n'] (groups code).body) = (groups code).body := by
    apply Text.pieces_join
    · intro none
      rw [none] at some
      contradiction
    · intro line h
      apply Text.newline_notMem_of_mem_lines
      exact (linesOf_placed_sublist .body code).subset h
  rw [← Text.isBlankText_join] at some
  have trimmed := Text.trimmed_rows some
  rwa [rows] at trimmed

section

variable {code : Text} (noReturn : '\r' ∉ code)

include noReturn

theorem inLine_of_mem_placed {line : Text} {part : Part} (h : line ∈ linesOf part (placed code)) :
  Text.InLine line
  := by
  have trimmed : '\r' ∉ Text.trim code := fun h => noReturn (Text.mem_of_mem_trim h)
  exact Text.inLine_of_mem_lines trimmed ((linesOf_placed_sublist part code).subset h)

/-- The definitions come apart into the lines they were joined from. -/
theorem lines_join_definitions :
  Text.lines (Text.join ['\n'] (linesOf .definition (placed code)))
    = linesOf .definition (placed code)
  := by
  apply Text.lines_join
  · intro line h
    exact inLine_of_mem_placed noReturn h
  · apply getLast?_definitions
    apply Text.getLast?_lines_trim

/-- The program of a fragment whose body is blank. -/
theorem program_idle (noEntryPoint : definesEntryPoint (Text.trim code) = false)
    (blank : (groups code).body.all Text.isBlankText = true) (result : Text) :
  (split code).program result = Text.ended (groups code).idleProgram
  := by
  rw [split_of_noEntryPoint noEntryPoint, if_pos blank,
    Parts.program_of_none rfl rfl (groups code).body, lines_join_definitions noReturn]
  rfl

/-- The program of a fragment whose body is not blank. -/
theorem program_value (noEntryPoint : definesEntryPoint (Text.trim code) = false)
    (some : (groups code).body.all Text.isBlankText = false) (result : Text) :
  (split code).program result
    = Text.ended ((groups code).valueProgram
        (Text.rows (Text.trim (Text.join ['\n'] (groups code).body))) result)
  := by
  rw [split_of_noEntryPoint noEntryPoint, some, if_neg nofun,
    Parts.program_of_some rfl rfl (groups code).body, lines_join_definitions noReturn]
  rfl

/-! ### The lines of the program -/

theorem inLine_groups :
  (∀ line ∈ (groups code).attributes ++ (groups code).items, Text.InLine line)
    ∧ (∀ line ∈ (groups code).body, Text.InLine line)
  := by
  simp only [List.forall_mem_append]
  refine ⟨⟨?_, ?_⟩, ?_⟩
  · intro line h
    exact inLine_of_mem_placed noReturn (List.mem_filter.mp h).1
  · intro line h
    exact inLine_of_mem_placed noReturn (List.mem_filter.mp h).1
  · intro line h
    exact inLine_of_mem_placed noReturn h

theorem inLine_idleProgram :
  ∀ line ∈ (groups code).idleProgram, Text.InLine line
  := Groups.forall_mem_idleProgram (fun _ inLine => inLine) (inLine_groups noReturn).1

theorem inLine_valueProgram {kept : List Text} (inLine : ∀ line ∈ kept, Text.InLine line)
    (result : Text) :
  ∀ line ∈ (groups code).valueProgram kept result, Text.InLine line
  := Groups.forall_mem_valueProgram (fun _ inLine => inLine) (inLine_groups noReturn).1 inLine result

end

/-- The lines of a program around a fragment that has no entry point. The lines of the fragment fall
into groups. If the lines of the body are all blank, there is no body, and the program has an empty
entry point and no result; otherwise it is the groups in their order between fixed lines, and of the
body only blanks at its two ends are missing. -/
theorem program_lines {code : Text} (noReturn : '\r' ∉ code)
    (noEntryPoint : definesEntryPoint (Text.trim code) = false) (result : Text) :
  (groups code).Divide (Text.lines (Text.trim code))
    ∧ ((split code).body = none ↔ ∀ line ∈ (groups code).body, Text.isBlankText line = true)
    ∧ ((split code).body = none →
      (split code).capturesValue = false
        ∧ (split code).program result = Text.ended (groups code).idleProgram
        ∧ Text.lines ((split code).program result) = (groups code).idleProgram)
    ∧ (∀ body, (split code).body = some body →
      ∃ kept, Text.Trimmed (groups code).body kept
        ∧ body = Text.join ['\n'] kept
        ∧ (split code).program result = Text.ended ((groups code).valueProgram kept result)
        ∧ Text.lines ((split code).program result) = (groups code).valueProgram kept result)
  := by
  refine ⟨groups_divide code, body_eq_none_iff noEntryPoint, ?_, ?_⟩
  · intro none
    have blank := (body_eq_none_iff noEntryPoint).mp none
    rw [← List.all_eq_true] at blank
    rw [program_idle noReturn noEntryPoint blank]
    refine ⟨?_, rfl, Text.lines_ended (inLine_idleProgram noReturn)⟩
    rw [Parts.capturesValue, none]
    simp
  · intro body isBody
    cases some : (groups code).body.all Text.isBlankText with
    | true =>
        rw [List.all_eq_true, ← body_eq_none_iff noEntryPoint, isBody] at some
        contradiction
    | false =>
        have text : body = Text.trim (Text.join ['\n'] (groups code).body) := by
          rw [split_of_noEntryPoint noEntryPoint, some] at isBody
          exact (Option.some.inj isBody).symm
        have kept_inLine :
            ∀ line ∈ Text.rows (Text.trim (Text.join ['\n'] (groups code).body)),
              Text.InLine line := by
          intro line h
          refine ⟨Text.notMem_of_mem_pieces h, fun c => ?_⟩
          apply Text.noReturn_join (inLine_groups noReturn).2
          exact Text.mem_of_mem_trim (Text.mem_of_mem_pieces h c)
        refine ⟨_, trimmed_body some, ?_, program_value noReturn noEntryPoint some result,
          ?_⟩
        · rw [text, Text.rows, Text.join_pieces]
        · rw [program_value noReturn noEntryPoint some]
          exact Text.lines_ended (inLine_valueProgram noReturn kept_inLine result)

/-- A fragment with its body around an item, an empty line within that item, and an inner attribute
below it. -/
def interleaved : Text :=
  ("\n  let x = twice(2);\n\nfn twice(n: u8) -> u8 \x7b\n\n    n * 2 \x7d\n"
    ++ "#![allow(dead_code)]\nx \n").toList

theorem program_lines_interleaved :
  '\r' ∉ interleaved
    ∧ definesEntryPoint (Text.trim interleaved) = false
    ∧ (groups interleaved).attributes = ["#![allow(dead_code)]".toList]
    ∧ (groups interleaved).items
      = ["fn twice(n: u8) -> u8 \x7b".toList, [], "    n * 2 \x7d".toList]
    ∧ (groups interleaved).body = ["let x = twice(2);".toList, [], "x".toList]
    ∧ ∃ kept, Text.Trimmed (groups interleaved).body kept
      ∧ Text.lines ((split interleaved).program "result".toList)
        = (groups interleaved).valueProgram kept "result".toList
  := by
  have noReturn : '\r' ∉ interleaved := by decide +kernel
  have noEntryPoint : definesEntryPoint (Text.trim interleaved) = false := by decide +kernel
  have isBody : (split interleaved).body = some "let x = twice(2);\n\nx".toList := by
    decide +kernel
  obtain ⟨-, -, -, value⟩ := program_lines noReturn noEntryPoint "result".toList
  obtain ⟨kept, trimmed, -, -, lines⟩ := value _ isBody
  refine ⟨noReturn, noEntryPoint, ?_, ?_, ?_, kept, trimmed, lines⟩
  · decide +kernel
  · decide +kernel
  · decide +kernel

end Fragment

end NotebookEngine
