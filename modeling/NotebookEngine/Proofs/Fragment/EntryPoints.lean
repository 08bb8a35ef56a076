import NotebookEngine.Proofs.Fragment.Headers

/-!
# Two ways to find an entry point

A fragment that is a file has an entry point if one of its functions at the top level is called `main`. In
a fragment that is no file each line is looked at by itself: it has an entry point if a line declares
`main`, with nothing before the declaration but a visibility (`DeclaresMain`). So a file and the same
file with statements after it are told the same if and only if it is a line of the file that declares
`main` just when a function at its top level is called so (`entryPoints_agree_iff`).
-/

namespace NotebookEngine

namespace Fragment

open Text (Gap)

/-! ### Lines that declare `main` -/

/-- The line declares `main`: nothing but a visibility stands before the declaration. -/
def DeclaresMain (line : Text) : Prop :=
  ∃ (visibility : Visibility) (gap : Gap) (blanks rest : Text), Text.isBlankText blanks = true
    ∧ Text.trim line = visibility.text
      ++ ("fn".toList ++ (gap.text ++ ("main".toList ++ (blanks ++ '(' :: rest))))

theorem cutFirst?_closing_inv {s scope rest : Text} (cut : Text.cutFirst? [')'] s = some (scope, rest)) :
  s = scope ++ ')' :: rest ∧ ')' ∉ scope
  := by
  induction s generalizing scope with
  | nil => nomatch cut
  | cons c s ih =>
      by_cases closes : ')' = c
      · rw [Text.cutFirst?, Text.stripPrefix?, if_pos closes] at cut
        obtain ⟨rfl, rfl⟩ := Prod.mk.inj (Option.some.inj cut)
        rw [← closes]
        exact ⟨rfl, List.not_mem_nil⟩
      · rw [Text.cutFirst?, Text.stripPrefix?, if_neg closes] at cut
        obtain ⟨⟨front, after⟩, behind, same⟩ := Option.map_eq_some_iff.mp cut
        obtain ⟨rfl, rfl⟩ := Prod.mk.inj same
        obtain ⟨rfl, closed⟩ := ih behind
        refine ⟨rfl, ?_⟩
        rw [List.mem_cons, not_or]
        exact ⟨closes, closed⟩

/-- The blanks that a text begins with. -/
theorem exists_gap {s : Text} (blank : Text.startsBlank s = true) :
  ∃ gap : Gap, s = gap.text ++ Text.trimStart s
  := by
  refine ⟨⟨Text.indent s, ?_, Text.isBlankText_indent s⟩, (Text.trimStart_indent s).symm⟩
  obtain _ | ⟨c, rest⟩ := s
  · nomatch blank
  · have blank : Text.isBlank c = true := blank
    rw [Text.indent, List.takeWhile_cons_of_pos blank]
    exact List.cons_ne_nil _ _

/-- What is stripped from a text is a visibility. -/
theorem exists_visibility (s : Text) :
  ∃ visibility : Visibility, s = visibility.text ++ stripVisibility s
  := by
  unfold stripVisibility
  split
  case h_1 => exact ⟨.none, rfl⟩
  case h_2 scope stripped =>
    rw [Text.stripPrefix?_eq_some_iff] at stripped
    split
    case h_1 front rest cut =>
      obtain ⟨rfl, closed⟩ := cutFirst?_closing_inv cut
      use .toScope front closed (Text.indent rest) (Text.isBlankText_indent rest)
      have indented := Text.trimStart_indent rest
      rw [stripped, Visibility.text, List.append_assoc, List.cons_append, indented]
      rfl
    case h_2 => exact ⟨.none, rfl⟩
  case h_3 rest _ stripped =>
    rw [Text.stripPrefix?_eq_some_iff] at stripped
    split
    case isTrue blank =>
      obtain ⟨gap, same⟩ := exists_gap blank
      exact ⟨.toAll gap, by rw [Visibility.text, List.append_assoc, ← same, stripped]⟩
    case isFalse => exact ⟨.none, rfl⟩

theorem startsWith_bracket_iff {s : Text} :
  Text.startsWith (Text.trimStart s) ['('] = true
    ↔ ∃ blanks rest, Text.isBlankText blanks = true ∧ s = blanks ++ '(' :: rest
  := by
  rw [Text.startsWith, List.isPrefixOf_iff_prefix]
  constructor
  case mp =>
    rintro ⟨rest, same⟩
    refine ⟨Text.indent s, rest, Text.isBlankText_indent s, ?_⟩
    conv_lhs => rw [← Text.trimStart_indent s, ← same]
    rfl
  case mpr =>
    rintro ⟨blanks, rest, blank, rfl⟩
    rw [Text.trimStart_blank_append blank rfl]
    exact ⟨rest, rfl⟩

theorem declaresMain_iff {s : Text} :
  declaresMain s = true ↔ ∃ (gap : Gap) (blanks rest : Text), Text.isBlankText blanks = true
    ∧ s = "fn".toList ++ (gap.text ++ ("main".toList ++ (blanks ++ '(' :: rest)))
  := by
  unfold declaresMain
  constructor
  case mp =>
    split
    case h_1 => exact nofun
    case h_2 after stripped =>
      rw [Text.stripPrefix?_eq_some_iff] at stripped
      rw [Bool.and_eq_true]
      rintro ⟨blank, declares⟩
      obtain ⟨gap, after_eq⟩ := exists_gap blank
      split at declares
      case h_2 => nomatch declares
      case h_1 behind named =>
        rw [Text.stripPrefix?_eq_some_iff] at named
        obtain ⟨blanks, rest, blanks_blank, same⟩ := startsWith_bracket_iff.mp declares
        exact ⟨gap, blanks, rest, blanks_blank, by rw [stripped, after_eq, named, same]⟩
  case mpr =>
    rintro ⟨gap, blanks, rest, blank, rfl⟩
    have trimmed : Text.trimStart (gap.text ++ ("main".toList ++ (blanks ++ '(' :: rest)))
        = "main".toList ++ (blanks ++ '(' :: rest) :=
      Text.trimStart_blank_append gap.blank (by rfl)
    simp only [Text.stripPrefix?_eq_some_iff.mpr rfl, trimmed, gap.startsBlank, Bool.true_and]
    exact startsWith_bracket_iff.mpr ⟨blanks, rest, blank, rfl⟩

theorem declaresMain_strip_iff {line : Text} :
  declaresMain (stripVisibility (Text.trim line)) = true ↔ DeclaresMain line
  := by
  rw [declaresMain_iff]
  constructor
  case mp =>
    rintro ⟨gap, blanks, rest, blank, same⟩
    obtain ⟨visibility, line_eq⟩ := exists_visibility (Text.trim line)
    exact ⟨visibility, gap, blanks, rest, blank, line_eq.trans (by rw [same])⟩
  case mpr =>
    rintro ⟨visibility, gap, blanks, rest, blank, same⟩
    refine ⟨gap, blanks, rest, blank, ?_⟩
    rw [same]
    exact stripVisibility_text visibility _ (by decide) (by decide)

/-! ### Files with statements after them -/

/-- A line that declares `main` holds that word. -/
theorem DeclaresMain.isInfix {line : Text} (declares : DeclaresMain line) :
  "main".toList <:+: line
  := by
  obtain ⟨visibility, gap, blanks, rest, -, same⟩ := declares
  have inTrimmed : "main".toList <:+: Text.trim line := by
    rw [same, ← List.append_assoc, ← List.append_assoc]
    exact ⟨_, _, List.append_assoc _ _ _⟩
  exact inTrimmed.trans (Text.isInfix_trim line)

/-- Statements without the word declare no `main`. -/
theorem any_rows_of_absent {statements : Text} (absent : ¬"main".toList <:+: statements) :
  (Text.rows statements).any (fun row => declaresMain (stripVisibility (Text.trim row))) = false
  := by
  rw [List.any_eq_false]
  intro row stands declares
  rw [declaresMain_strip_iff] at declares
  exact absent (declares.isInfix.trans (Text.isInfix_of_mem_pieces stands))

section Statements

variable {file statements : Text}

/-- In a file with statements after it each line is looked at by itself. -/
theorem definesEntryPoint_append_iff (noFile : topFunctions? (file ++ '\n' :: statements) = none)
    (absent : ¬"main".toList <:+: statements) :
  definesEntryPoint (file ++ '\n' :: statements) = true ↔ ∃ line ∈ Text.lines file, DeclaresMain line
  := by
  have any_lines : ∀ s, (Text.lines s).any (fun row => declaresMain (stripVisibility (Text.trim row)))
      = (Text.rows s).any fun row => declaresMain (stripVisibility (Text.trim row)) :=
    Text.any_lines rfl fun row => by rw [Text.trim_append_blank row (by decide)]
  rw [definesEntryPoint, noFile]
  simp only [any_lines]
  rw [Text.rows, Text.pieces_append, ← Text.rows, ← Text.rows, List.any_append,
    any_rows_of_absent absent, Bool.or_false, ← any_lines, List.any_eq_true]
  simp only [declaresMain_strip_iff]

/-- A file has an entry point if a function at its top level is called `main`, and with statements after
it if one of its lines declares `main`. So the two are told the same if and only if a function at the
top level is called so just when a line declares it. -/
theorem entryPoints_agree_iff {names : List Text} (isFile : topFunctions? file = some names)
    (noFile : topFunctions? (file ++ '\n' :: statements) = none)
    (absent : ¬"main".toList <:+: statements) :
  (definesEntryPoint file = true ↔ "main".toList ∈ names)
    ∧ (definesEntryPoint (file ++ '\n' :: statements) = true
      ↔ ∃ line ∈ Text.lines file, DeclaresMain line)
    ∧ (definesEntryPoint (file ++ '\n' :: statements) = definesEntryPoint file
      ↔ ("main".toList ∈ names ↔ ∃ line ∈ Text.lines file, DeclaresMain line))
  := by
  have whole : definesEntryPoint file = true ↔ "main".toList ∈ names := by
    rw [definesEntryPoint, isFile]
    exact List.contains_iff_mem
  have loose := definesEntryPoint_append_iff noFile absent
  refine ⟨whole, loose, ?_⟩
  rw [Bool.eq_iff_iff, whole, loose]
  exact iff_comm

end Statements

/-- A file with a visible `main` and another function. -/
def visibleMain : Text :=
  "pub(crate) fn main () \x7b\x7d\nfn other() \x7b\x7d".toList

theorem entryPoints_agree_visible :
  definesEntryPoint visibleMain = true
    ∧ definesEntryPoint (visibleMain ++ '\n' :: "let x = 1;".toList) = true
  := by
  have isFile : topFunctions? visibleMain = some ["main".toList, "other".toList] := by decide +kernel
  have agree := @entryPoints_agree_iff visibleMain "let x = 1;".toList _ isFile (by decide +kernel)
    (by decide +kernel)
  have whole := agree.1.mpr List.mem_cons_self
  have declares : ∃ line ∈ Text.lines visibleMain, DeclaresMain line := by
    refine ⟨"pub(crate) fn main () \x7b\x7d".toList, by decide +kernel, ?_⟩
    exact declaresMain_strip_iff.mp (by decide +kernel)
  exact ⟨whole, agree.2.1.mpr declares⟩

/-- They are not always told the same: a `main` in a module is found in a line if statements follow. -/
theorem not_entryPoints_agree :
  ¬∀ (file statements : Text) (names : List Text), topFunctions? file = some names →
    topFunctions? (file ++ '\n' :: statements) = none → ¬"main".toList <:+: statements →
    definesEntryPoint (file ++ '\n' :: statements) = definesEntryPoint file
  := by
  intro agree
  have nested := agree "mod m \x7b\n    fn main() \x7b\x7d\n\x7d".toList "let x = 1;".toList []
    (by decide +kernel) (by decide +kernel) (by decide +kernel)
  revert nested
  decide +kernel

end Fragment

end NotebookEngine
