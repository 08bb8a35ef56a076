import NotebookEngine.Proofs.Fragment.Items

/-!
# Attributes on the line of their item

The splitting takes an attribute to go on to the first line whose code ends with its bracket. An
attribute that has the header of its item behind it, on the same line, thus goes on through the item: the
header is not seen, and the item is recovered only if another one begins in it, right behind a line
that ends with a bracket. If there is no such line in the item, the attribute takes the statements
too, up to the first line of them that ends with a bracket (`split_attributed`).
-/

namespace NotebookEngine

namespace Fragment

/-- The attribute that an item begins with goes on through the item, if no line of it ends with a
bracket. -/
theorem afterAttributes_attributed {item : List Text} (some : item ≠ [])
    (attributed : ∀ line ∈ item.head?, IsAttributeLine line)
    (goesOn : ∀ line ∈ item, ¬EndsAttribute line) (rest : List Text) :
  afterAttributes false (item ++ rest) = afterAttributes true rest
  := by
  have begins : ∀ line ∈ (item ++ rest).head?, IsAttributeLine line := by
    rwa [List.head?_append_of_ne_nil item some]
  rw [afterAttributes_of_begins begins, afterAttributes_of_goesOn goesOn]

/-! ### Items with an attribute on their line -/

section Attributed

variable {code : Text} {item statements : List Text}
  (noEntryPoint : definesEntryPoint (Text.trim code) = false)
  (some : item ≠ []) (attributed : ∀ line ∈ item.head?, IsAttributeLine line)
  (goesOn : ∀ line ∈ item, ¬EndsAttribute line)
  (plain : ∀ line ∈ statements, ¬IsItemLine line ∧ ¬IsAttributeLine line)
  (lines : Text.lines (Text.trim code) = item ++ statements)

include noEntryPoint some attributed goesOn lines

theorem split_taking_all (statements_goOn : ∀ line ∈ statements, ¬EndsAttribute line) :
  split code = Parts.ofLines (item ++ statements) []
  := by
  have front : afterAttributes false (item ++ statements ++ []) = [] := by
    rw [List.append_assoc, afterAttributes_attributed some attributed goesOn,
      afterAttributes_of_goesOn statements_goOn]
    rfl
  exact split_after_attributes noEntryPoint (by rw [List.append_nil, lines]) front nofun

include plain in
theorem split_taking {taken left : List Text} {line : Text} (apart : statements = taken ++ line :: left)
    (taken_goOn : ∀ line ∈ taken, ¬EndsAttribute line) (ends : EndsAttribute line) :
  split code = Parts.ofLines (item ++ taken ++ [line]) left
  := by
  rw [apart] at plain lines
  have left_plain : ∀ line ∈ left, ¬IsItemLine line ∧ ¬IsAttributeLine line := by
    intro line stands
    exact plain line (List.mem_append_right _ (List.mem_cons_of_mem _ stands))
  have front : afterAttributes false (item ++ taken ++ [line] ++ left) = left := by
    rw [List.append_assoc, List.append_assoc, List.singleton_append,
      afterAttributes_attributed some attributed goesOn, afterAttributes_of_goesOn taken_goOn,
      afterAttributes_of_ends ends, afterAttributes_of_plain]
    intro line stands
    exact (left_plain line (List.mem_of_head? stands)).2
  exact split_after_attributes noEntryPoint (by rw [lines]; simp) front left_plain

end Attributed

/-- What becomes of an item with an attribute on its first line, before statements. It is recovered if
and only if the first line of it that is in no attribute begins an item and no attribute in it is left
open, unless nothing comes after it. If no line of it ends with a bracket, the definitions take the
statements too, up to the first line of them that ends with a bracket, or all of them. -/
theorem split_attributed {code : Text} {item statements : List Text}
    (noEntryPoint : definesEntryPoint (Text.trim code) = false) (spans : Spans item)
    (attributed : ∀ line ∈ item.head?, IsAttributeLine line)
    (plain : ∀ line ∈ statements, ¬IsItemLine line ∧ ¬IsAttributeLine line)
    (lines : Text.lines (Text.trim code) = item ++ statements) :
  (split code = Parts.ofLines item statements
      ↔ (∀ line ∈ (afterAttributes false item).head?, IsItemLine line)
        ∧ (Unclosed item → statements = []))
    ∧ ((∀ line ∈ item, ¬EndsAttribute line) →
      ((∀ line ∈ statements, ¬EndsAttribute line) →
        split code = Parts.ofLines (item ++ statements) [])
      ∧ ∀ taken line left, statements = taken ++ line :: left →
        (∀ line ∈ taken, ¬EndsAttribute line) → EndsAttribute line →
          split code = Parts.ofLines (item ++ taken ++ [line]) left)
  := by
  refine ⟨split_item_iff noEntryPoint spans lines plain, fun goesOn => ⟨?_, ?_⟩⟩
  · exact split_taking_all noEntryPoint spans.some attributed goesOn lines
  · intro taken line left
    exact split_taking noEntryPoint spans.some attributed goesOn plain lines

/-- A structure with an attribute on its first line. -/
def derived : List Text :=
  ["#[derive(Debug)] struct P \x7b".toList, "    x: u8, // one".toList, "\x7d".toList]

/-- Statements of which the first line ends with a bracket. -/
def measured : List Text :=
  ["let n = [P \x7b x: 1 \x7d.x, 2]".toList, "    .len();".toList, "n".toList]

theorem split_attributed_derived :
  Spans derived ∧ (∀ line ∈ derived, ¬EndsAttribute line)
    ∧ split (Text.join ['\n'] (derived ++ measured))
      = Parts.ofLines (derived ++ ["let n = [P \x7b x: 1 \x7d.x, 2]".toList])
        ["    .len();".toList, "n".toList]
  := by
  have spans : Spans derived := by decide +kernel
  have goesOn : ∀ line ∈ derived, ¬EndsAttribute line := by decide +kernel
  have lines : Text.lines (Text.trim (Text.join ['\n'] (derived ++ measured))) = derived ++ measured := by
    decide +kernel
  have takes := (split_attributed (by decide +kernel) spans (by decide +kernel) (by decide +kernel)
    lines).2 goesOn
  exact ⟨spans, goesOn, takes.2 [] _ _ rfl nofun (by decide +kernel)⟩

/-- Not every item with an attribute on its first line is recovered, even if its header would be seen by
itself. -/
theorem not_attributed_recovered :
  ¬∀ (code : Text) (item statements : List Text),
    definesEntryPoint (Text.trim code) = false →
    (∃ line content header, item.head? = some line
      ∧ Text.trim line = "#[".toList ++ content ++ ']' :: header ∧ ']' ∉ content
      ∧ IsItemLine header) →
    Encloses item → (∀ line ∈ item.getLast?, EndsItem line) →
    (∀ line ∈ statements, ¬IsItemLine line ∧ ¬IsAttributeLine line) →
    Text.lines (Text.trim code) = item ++ statements →
    split code = Parts.ofLines item statements
  := by
  intro recovered
  have headed : ∃ line content header, derived.head? = some line
      ∧ Text.trim line = "#[".toList ++ content ++ ']' :: header ∧ ']' ∉ content
      ∧ IsItemLine header :=
    ⟨_, "derive(Debug)".toList, " struct P \x7b".toList, rfl, by decide +kernel⟩
  have same := recovered (Text.join ['\n'] (derived ++ measured)) derived measured
    (by decide +kernel) headed (by decide +kernel) (by decide +kernel) (by decide +kernel)
    (by decide +kernel)
  revert same
  decide +kernel

end Fragment

end NotebookEngine
