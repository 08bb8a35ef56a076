import NotebookEngine.Proofs.Fragment.Items

/-!
# One statement over several lines

The splitting looks at each line of a statement by itself, whatever braces are open around it. So a
fragment of one statement is its own body if and only if no line of it begins an item or an attribute,
and its lines end without carriage returns (`split_enclosed`). At the first line that begins an item the
statement is torn in two: that line and all after it become the definitions.
-/

namespace NotebookEngine

namespace Fragment

section OneStatement

variable {code : Text} {block : List Text}
  (noEntryPoint : definesEntryPoint (Text.trim code) = false)
  (lines : Text.lines (Text.trim code) = block)

include noEntryPoint lines

/-- If there are no definitions, no line begins one. -/
theorem plain_of_definitions_nil (none : (split code).definitions = []) :
  ∀ line ∈ block, ¬IsItemLine line ∧ ¬IsAttributeLine line
  := by
  have placed_block : placed code = Progress.place {} block := by rw [placed, lines]
  rw [split_eq_ofLines noEntryPoint, placed_block] at none
  cases definitions : linesOf .definition (Progress.place {} block) with
  | nil =>
      intro line stands
      have perm := linesOf_perm (Progress.place {} block)
      rw [definitions, map_snd_place, List.nil_append] at perm
      have plain := plain_of_mem_body (perm.mem_iff.mpr stands)
      simpa [IsItemLine, IsAttributeLine] using plain
  | cons first rest =>
      have begins := begins_of_head (p := {}) rfl rfl block first (by rw [definitions]; rfl)
      have empty : first = [] := by
        rw [Parts.ofLines, definitions] at none
        cases rest with
        | nil => exact none
        | cons next rest =>
            simp only [Text.join, List.append_assoc, List.append_eq_nil_iff] at none
            exact none.1
      rw [empty] at begins
      rcases begins with begins | begins <;> contradiction

theorem split_plain (plain : ∀ line ∈ block, ¬IsItemLine line ∧ ¬IsAttributeLine line) :
  split code = Parts.ofLines [] block
  := split_of_sends noEntryPoint lines .nil (sends_statements plain 0)

/-- A statement is torn at the first of its lines that begins an item. -/
theorem split_torn (encloses : Encloses block) {before after : List Text} {line : Text}
    (apart : block = before ++ line :: after)
    (plain : ∀ line ∈ before, ¬IsItemLine line ∧ ¬IsAttributeLine line) (item : IsItemLine line) :
  split code = Parts.ofLines (line :: after) before
  := by
  have statements := sends_statements plain 0
  rw [Int.zero_add] at statements
  have beyond : ¬((⟨net before, false, false⟩ : Progress).inAttribute = true ∨ IsAttributeLine line) := by
    rintro (within | begins)
    · contradiction
    · exact not_isItemLine begins item
  have begins : ∀ first ∈ (afterAttributes false (line :: after)).head?, IsItemLine first := by
    rw [afterAttributes_beyond beyond]
    simpa using item
  obtain ⟨q, sends, -⟩ := encloses.continues.sends_from apart (List.cons_ne_nil _ _)
    (p := ⟨net before, false, false⟩) rfl (.inr begins)
  rw [split_eq_ofLines noEntryPoint, placed, lines, apart, statements.place_both sends]
  simp only [linesOf_append, linesOf_map, ↓reduceIte, reduceCtorEq, List.append_nil, List.nil_append]

end OneStatement

/-- The body of lines that are all the lines of a text is the text if no line of it ends with a carriage
return. -/
theorem Parts.ofLines_eq_whole_iff {s : Text} (trimmed : Text.trim s = s) (present : s ≠ []) :
  ofLines [] (Text.lines s) = { definitions := [], body := some s, hasEntryPoint := false }
    ↔ ¬['\r', '\n'] <:+: s
  := by
  have filled : Text.isBlankText s = false := by
    rw [← Text.isEmpty_trim, trimmed, List.isEmpty_eq_false_iff]
    exact present
  have ended : (Text.rows s).getLast? ≠ some [] := by
    have last := Text.getLast?_rows_trim filled
    rwa [trimmed] at last
  have body : (ofLines [] (Text.lines s)).body = some (Text.trim (Text.join ['\n'] (Text.lines s))) := by
    rw [ofLines, Text.all_isBlankText_lines, filled]
    rfl
  rw [← Text.join_lines_eq_iff ended]
  constructor
  case mp =>
    intro whole
    rw [whole, Option.some.injEq] at body
    -- nothing is lost by the trimming, since nothing is gained by the joining
    have trims : (Text.trim (Text.join ['\n'] (Text.lines s))).Sublist (Text.join ['\n'] (Text.lines s)) :=
      (List.rdropWhile_prefix _ _).sublist.trans (List.dropWhile_sublist _)
    rw [← body] at trims
    exact (Text.join_lines_sublist ended).antisymm trims
  case mpr =>
    intro joined
    rw [joined, trimmed] at body
    rw [← body]
    rfl

/-- What becomes of a fragment of one statement. It is its own body if and only if no line of it begins
an item or an attribute and no carriage return stands at the end of a line. If the first such line begins
an item, it and all after it are the definitions. -/
theorem split_enclosed {code : Text} {block : List Text}
    (noEntryPoint : definesEntryPoint (Text.trim code) = false) (encloses : Encloses block)
    (lines : Text.lines (Text.trim code) = block) :
  (split code = { definitions := [], body := some (Text.trim code), hasEntryPoint := false }
      ↔ (∀ line ∈ block, ¬IsItemLine line ∧ ¬IsAttributeLine line) ∧ ¬['\r', '\n'] <:+: Text.trim code)
    ∧ ∀ before line after, block = before ++ line :: after →
      (∀ line ∈ before, ¬IsItemLine line ∧ ¬IsAttributeLine line) → IsItemLine line →
        split code = Parts.ofLines (line :: after) before
  := by
  refine ⟨?_, fun _ _ _ => split_torn noEntryPoint lines encloses⟩
  have present : Text.trim code ≠ [] := by
    intro none
    rw [none] at lines
    exact encloses.some lines.symm
  have whole := Parts.ofLines_eq_whole_iff (Text.trim_trim code) present
  rw [lines] at whole
  constructor
  case mp =>
    intro same
    have plain := plain_of_definitions_nil noEntryPoint lines (by rw [same])
    rw [split_plain noEntryPoint lines plain] at same
    exact ⟨plain, whole.mp same⟩
  case mpr =>
    rintro ⟨plain, noReturns⟩
    rw [split_plain noEntryPoint lines plain]
    exact whole.mpr noReturns

/-- A loop with a closure and a brace in a string in it. -/
def counting : List Text :=
  ["for i in 0..3 \x7b".toList, "    let twice = |n| \x7b n * 2 \x7d; // \x7d".toList,
    "    println!(\"\x7b\x7d\", twice(i));".toList, "\x7d".toList]

/-- A loop with a constant of its own. -/
def scaling : List Text :=
  ["for i in 0..3 \x7b".toList, "    const K: i32 = 2;".toList,
    "    println!(\"\x7b\x7d\", K * i);".toList, "\x7d".toList]

theorem split_enclosed_loops :
  (Encloses counting ∧ split (Text.join ['\n'] counting)
      = { definitions := [], body := some (Text.join ['\n'] counting), hasEntryPoint := false })
    ∧ Encloses scaling ∧ split (Text.join ['\n'] scaling)
      = Parts.ofLines (scaling.drop 1) ["for i in 0..3 \x7b".toList]
  := by
  have counts : Encloses counting := by decide +kernel
  have scales : Encloses scaling := by decide +kernel
  have trimmed : Text.trim (Text.join ['\n'] counting) = Text.join ['\n'] counting := by decide +kernel
  have counting_lines : Text.lines (Text.trim (Text.join ['\n'] counting)) = counting := by
    decide +kernel
  have scaling_lines : Text.lines (Text.trim (Text.join ['\n'] scaling)) = scaling := by decide +kernel
  have whole := (split_enclosed (by decide +kernel) counts counting_lines).1
  have torn := (split_enclosed (by decide +kernel) scales scaling_lines).2
  rw [trimmed] at whole
  exact ⟨⟨counts, whole.mpr (by decide +kernel)⟩, scales,
    torn ["for i in 0..3 \x7b".toList] _ _ rfl (by decide +kernel) (by decide +kernel)⟩

/-- Not every statement is its own body, not even without carriage returns: one with a constant in it is
not. -/
theorem not_enclosed_whole :
  ¬∀ (code : Text) (block : List Text),
    definesEntryPoint (Text.trim code) = false → '\r' ∉ code → Encloses block →
    (∀ line ∈ block.head?, ¬IsItemLine line ∧ ¬IsAttributeLine line) →
    Text.lines (Text.trim code) = block →
    split code = { definitions := [], body := some (Text.trim code), hasEntryPoint := false }
  := by
  intro whole
  have same := whole (Text.join ['\n'] scaling) scaling (by decide +kernel) (by decide +kernel)
    (by decide +kernel) (by decide +kernel) (by decide +kernel)
  revert same
  decide +kernel

end Fragment

end NotebookEngine
