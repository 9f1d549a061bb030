import ArtifactDepot.Text.Components

/-!
# Forms of local paths

The plain form of a path, in which files are opened, and the cut before its
last component, by which the directories above it are found.
-/

namespace ArtifactDepot

open Text (slash)

/-- The component that stands for the directory itself. -/
def selfName : Text := ['.']

/-- The component that stands for the directory above. -/
def parentName : Text := ['.', '.']

namespace Path

/-- The root of the plain form: two leading slashes are kept, more count as one. -/
def plainRoot : Text → Text
  | a :: b :: c :: _ =>
      if a = slash then (if b = slash ∧ c ≠ slash then [slash, slash] else [slash]) else []
  | [a, b] => if a = slash then (if b = slash then [slash, slash] else [slash]) else []
  | [a] => if a = slash then [slash] else []
  | [] => []

/--
The plain form of a path: no repeated or trailing slashes and no components
that stand for the directory itself; a path without components is that one.
-/
def plain (path : Text) : Text :=
  let text := plainRoot path ++
    Text.join ((Text.solidComponents path).filter (fun part => part != selfName))
  if text.isEmpty then selfName else text

/--
A path cut before its last component.  The head loses its trailing slashes
unless it is made of slashes alone.
-/
def cutLast (path : Text) : Text × Text :=
  let parts := Text.components path
  let last := parts.getLastD []
  let head := path.take (path.length - last.length)
  let trimmed := Text.trimEnd slash head
  (if trimmed.isEmpty then head else trimmed, last)

/-- The last component and the directory above it; one trailing slash is overlooked. -/
def cutName (path : Text) : Text × Text :=
  let cut := cutLast path
  if cut.2.isEmpty then cutLast cut.1 else cut

theorem cutLast_length (path : Text) :
    (cutLast path).1.length + (cutLast path).2.length ≤ path.length := by
  have hlast : ((Text.components path).getLastD []).length ≤ path.length := by
    induction path with
    | nil => simp [Text.components]
    | cons c rest ih =>
        simp only [Text.components]
        split
        · cases hcut : Text.components rest with
          | nil => exact absurd hcut (Text.components_ne_nil rest)
          | cons first others =>
              rw [hcut] at ih
              simp only [List.getLastD_cons, List.length_cons] at ih ⊢
              omega
        · cases hcut : Text.components rest with
          | nil => exact absurd hcut (Text.components_ne_nil rest)
          | cons first others =>
              rw [hcut] at ih
              cases others with
              | nil => simpa using ih
              | cons second more =>
                  simp only [List.getLastD_cons, List.length_cons] at ih ⊢
                  omega
  have htrim : ∀ head : Text, (Text.trimEnd slash head).length ≤ head.length := by
    intro head
    simpa [Text.trimEnd] using
      (@List.dropWhile_suffix _ head.reverse (· == slash)).length_le
  simp only [cutLast]
  split
  · simp only [List.length_take]; omega
  · have := htrim (path.take (path.length - ((Text.components path).getLastD []).length))
    simp only [List.length_take] at this
    omega

/-- What lies above a named component is shorter. -/
theorem cutName_length {path : Text} (h : (cutName path).2 ≠ []) :
    (cutName path).1.length < path.length := by
  have hpos : ∀ text : Text, text ≠ [] → 0 < text.length := fun _ => List.length_pos_iff.2
  have houter := cutLast_length path
  unfold cutName at h ⊢
  simp only at h ⊢
  split at h
  · next hempty =>
      have hinner := cutLast_length (cutLast path).1
      rw [if_pos hempty]
      have := hpos _ h
      omega
  · next hempty =>
      rw [if_neg hempty]
      have := hpos _ h
      omega

end Path

end ArtifactDepot
