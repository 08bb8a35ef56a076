import NotebookEngine.Text.Basic

/-!
# Paths as texts

Two paths are the same if they have the same parts (`SamePath`): the root or a dot with which they
begin, and the names between their slashes. How many slashes stand between two names, a slash at the
end and a dot that stands for a name make no difference.
-/

namespace NotebookEngine

namespace Text

/-- The parts of a path, the empty name first if it begins at the root. -/
def pathParts (path : Text) : List Text :=
  if path.isEmpty then []
  else match pieces '/' path with
    | [] => []
    | first :: names => first :: names.filter fun n => !n.isEmpty && n ≠ ['.']

/-- The paths have the same parts. -/
def SamePath (p q : Text) : Prop :=
  pathParts p = pathParts q

instance (p q : Text) : Decidable (SamePath p q) :=
  inferInstanceAs (Decidable (pathParts p = pathParts q))

/-- Slashes and dots between the names make no difference, a dot at the beginning does. -/
example : SamePath "/bin//./sh/".toList "/bin/sh".toList ∧ ¬SamePath "./sh".toList "sh".toList := by
  decide

@[refl]
theorem SamePath.refl (p : Text) :
  SamePath p p
  := rfl

end Text

end NotebookEngine
