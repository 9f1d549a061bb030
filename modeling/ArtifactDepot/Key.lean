import ArtifactDepot.Text.Components

/-!
# Object keys

Object stores have no directories; they are read off the keys.  A directory
is named by a key prefix that ends in a slash, and its children are the first
components of what remains of the keys after that prefix.
-/

namespace ArtifactDepot.Key

open Text (slash)

/-- The name with a trailing slash, unless it is empty or has one. -/
def asDirectory (name : Text) : Text :=
  if name.isEmpty || [slash].isSuffixOf name then name else name ++ [slash]

/-- The name without leading, trailing and repeated slashes. -/
def canonical (name : Text) : Text := Text.join (Text.solidComponents name)

/--
The first component of a key below a directory prefix.  The prefix itself,
keys outside of it and empty components have none.
-/
def child? (key directory : Text) : Option Text :=
  match Text.afterPrefix? directory key with
  | none => none
  | some rest =>
      let name := rest.takeWhile (· != slash)
      if name.isEmpty then none else some name

/-- A child's name is not empty and holds no slash. -/
theorem child?_solid {key directory name : Text} (h : child? key directory = some name) :
    name ≠ [] ∧ slash ∉ name := by
  unfold child? at h
  split at h
  · simp at h
  · next rest _ =>
      by_cases hempty : (rest.takeWhile (· != slash)).isEmpty
      · simp [hempty] at h
      · simp only [hempty, Bool.false_eq_true, if_false, Option.some.injEq] at h
        subst h
        refine ⟨by simpa using hempty, fun hmem => ?_⟩
        have : (rest.takeWhile (· != slash)).all (· != slash) = true := List.all_takeWhile
        rw [List.all_eq_true] at this
        simpa using this slash hmem

end ArtifactDepot.Key
