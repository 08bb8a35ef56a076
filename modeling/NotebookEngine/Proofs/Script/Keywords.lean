import NotebookEngine.Proofs.Script.Returns

/-!
# Reserved words before a line that is returned

A keyword at the front of a line is seen only with nothing, a space, a tab, a parenthesis or a semicolon
behind it. A word ends at other characters too, such as a bracket or a quote. So a line that begins with a
reserved word, and could only be a statement, is returned all the same if another character ends that
word and the line does not close a block (`addReturn_reserved_iff`).
-/

namespace NotebookEngine

namespace Script

open Text (IsWord Breaks)

/-! ### Words and what ends them -/

/-- Words with which a statement may begin, and no expression. -/
def reservedWords : List Text :=
  ["return", "const", "var", "throw", "export"].map String.toList

/-- The punctuation of ASCII. -/
def isPunctuation (c : Char) : Bool :=
  let n := c.toNat
  (33 ≤ n && n ≤ 47) || (58 ≤ n && n ≤ 64) || (91 ≤ n && n ≤ 96) || (123 ≤ n && n ≤ 126)

/-- A word ends here: nothing follows, or a blank, or punctuation that is no part of a name. -/
def EndsWord (rest : Text) : Prop :=
  ∀ c ∈ rest.head?, Text.isBlank c = true ∨ isPunctuation c = true ∧ c ∉ ['_', '$', '\\']

instance (rest : Text) : Decidable (EndsWord rest) :=
  Option.decidableForallMem rest.head?

theorem EndsWord.breaks {rest : Text} (ends : EndsWord rest) :
  Breaks rest
  := by
  intro c first
  rw [← Bool.not_eq_true]
  intro lower
  rcases ends c first with blank | ⟨punctuation, -⟩
  · rw [Text.isBlank_of_isLower lower] at blank
    contradiction
  · have letters : (decide (97 ≤ c.toNat) && decide (c.toNat ≤ 122)) = true := lower
    rw [Bool.and_eq_true, decide_eq_true_eq, decide_eq_true_eq] at letters
    simp only [isPunctuation, Bool.or_eq_true, Bool.and_eq_true, decide_eq_true_eq] at punctuation
    omega

theorem breaks_of_endsKeyword {rest : Text} (ends : ∀ c ∈ rest.head?, c ∈ [' ', '\t', '(', ';']) :
  Breaks rest
  := by
  intro c first
  have ends := ends c first
  simp only [List.mem_cons, List.not_mem_nil, or_false] at ends
  rcases ends with rfl | rfl | rfl | rfl <;> decide

theorem Dialect.isWord_of_mem_keywords {d : Dialect} {keyword : Text} (isKeyword : keyword ∈ d.keywords) :
  IsWord keyword
  := by
  have words : ∀ keyword ∈ d.keywords, IsWord keyword := by cases d <;> decide
  exact words keyword isKeyword

theorem Dialect.mem_keywords_of_reserved {word : Text} (reserved : word ∈ reservedWords) (d : Dialect) :
  word ∈ d.keywords
  := by
  have keywords : ∀ word ∈ reservedWords, word ∈ d.keywords := by cases d <;> decide
  exact keywords word reserved

/-- A line that begins with a keyword has no value if and only if it closes a block or the keyword is seen
in it. -/
theorem Dialect.hasNoValue_iff {d : Dialect} {line keyword rest : Text} (isKeyword : keyword ∈ d.keywords)
    (begins : Text.trim line = keyword ++ rest) (breaks : Breaks rest) :
  d.HasNoValue line ↔ ['\x7d'] <:+ Text.trim line ∨ ∀ c ∈ rest.head?, c ∈ [' ', '\t', '(', ';']
  := by
  apply or_congr_right
  constructor
  · rintro ⟨other, isOther, behind, same, ends⟩
    -- the word at the front of the line is known, so no other keyword is seen there
    obtain ⟨-, rfl⟩ := Text.word_inj (isWord_of_mem_keywords isKeyword) (isWord_of_mem_keywords isOther)
      breaks (breaks_of_endsKeyword ends) (begins.symm.trans same)
    exact ends
  · intro ends
    exact ⟨keyword, isKeyword, rest, begins, ends⟩

/-! ### Lines that begin with a reserved word -/

/-- A fragment whose last line with code begins with a reserved word, as a whole word. It is changed if and
only if the line does not close a block and there is something behind the word that is no space, no tab, no
parenthesis and no semicolon; then the line is returned. -/
theorem addReturn_reserved_iff {d : Dialect} {code line word rest : Text} {before after : List Text}
    (last : LastCode (Text.rows (Text.trimEnd code)) before line after) (reserved : word ∈ reservedWords)
    (begins : Text.trim line = word ++ rest) (ends : EndsWord rest) :
  (addReturn d code ≠ Text.trimEnd code
      ↔ ¬['\x7d'] <:+ Text.trim line ∧ ∃ c ∈ rest.head?, c ∉ [' ', '\t', '(', ';'])
    ∧ (addReturn d code ≠ Text.trimEnd code →
      Text.rows (addReturn d code) = before ++ returnedLine line :: after)
  := by
  have isKeyword := d.mem_keywords_of_reserved reserved
  have value : ¬d.HasNoValue line
      ↔ ¬['\x7d'] <:+ Text.trim line ∧ ∃ c ∈ rest.head?, c ∉ [' ', '\t', '(', ';'] := by
    rw [Dialect.hasNoValue_iff isKeyword begins ends.breaks]
    push Not
    rfl
  refine ⟨last.addReturn_ne_iff.trans value, fun changed => ?_⟩
  exact last.rows_addReturn (last.addReturn_ne_iff.mp changed)

/-- A fragment of which the last line declares a constant by a pattern, right behind the keyword. -/
def destructured : Text :=
  "let o = f();\n  const\x7ba\x7d = o; // one\n\n// two".toList

theorem addReturn_reserved_iff_destructured :
  (∃ before line after, LastCode (Text.rows (Text.trimEnd destructured)) before line after
      ∧ Text.trim line = "const".toList ++ "\x7ba\x7d = o; // one".toList)
    ∧ "const".toList ∈ reservedWords ∧ EndsWord "\x7ba\x7d = o; // one".toList
    ∧ addReturn .typed destructured
      = "let o = f();\n  return const\x7ba\x7d = o; // one\n\n// two".toList
  := by
  have last : LastCode (Text.rows (Text.trimEnd destructured)) ["let o = f();".toList]
      "  const\x7ba\x7d = o; // one".toList [[], "// two".toList] :=
    ⟨by decide +kernel, by decide +kernel, by decide +kernel,
      .passed (by decide +kernel) (.passed (by decide +kernel) .nil)⟩
  have begins : Text.trim "  const\x7ba\x7d = o; // one".toList
      = "const".toList ++ "\x7ba\x7d = o; // one".toList := by decide +kernel
  have reserved : "const".toList ∈ reservedWords := by decide
  have ends : EndsWord "\x7ba\x7d = o; // one".toList := by decide +kernel
  refine ⟨⟨_, _, _, last, begins⟩, reserved, ends, ?_⟩
  have iff := @addReturn_reserved_iff .typed _ _ _ _ _ _ last reserved begins ends
  have changed := iff.1.mpr ⟨by decide +kernel, '\x7b', rfl, by decide⟩
  apply Text.rows_inj
  rw [iff.2 changed]
  decide +kernel

/-- Not every line that begins with a reserved word is left as it is. -/
theorem not_reserved_kept :
  ¬∀ (d : Dialect) (code line : Text) (before after : List Text),
    LastCode (Text.rows (Text.trimEnd code)) before line after →
    addReturn d code ≠ Text.trimEnd code →
    ∀ word ∈ reservedWords, ∀ rest, Text.trim line = word ++ rest → ¬EndsWord rest
  := by
  intro kept
  have last : LastCode (Text.rows (Text.trimEnd "return[1, 2]".toList)) [] "return[1, 2]".toList [] :=
    ⟨by decide +kernel, by decide +kernel, by decide +kernel, .nil⟩
  have changed : addReturn .plain "return[1, 2]".toList ≠ Text.trimEnd "return[1, 2]".toList := by
    decide +kernel
  exact kept _ _ _ _ _ last changed "return".toList (by decide) "[1, 2]".toList (by decide +kernel)
    (by decide +kernel)

end Script

end NotebookEngine
