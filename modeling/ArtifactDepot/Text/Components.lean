import ArtifactDepot.Text.Basic

/-!
# Components

A slash-separated text and the list of its components.  Cutting and joining
are inverse to each other, which is the ground on which paths and keys are
reasoned about: `join_components` and `components_join`.
-/

namespace ArtifactDepot.Text

/-- The separator of paths and keys. -/
def slash : Char := '/'

/-- Cut at every separator.  A text with `n` separators has `n + 1` components. -/
def components : Text → List Text
  | [] => [[]]
  | c :: rest =>
      if c = slash then [] :: components rest
      else
        match components rest with
        | [] => [[c]]
        | first :: others => (c :: first) :: others

/-- Put one separator between neighbouring components. -/
def join : List Text → Text
  | [] => []
  | [only] => only
  | first :: second :: others => first ++ slash :: join (second :: others)

/-- Cutting always yields at least one component. -/
theorem components_ne_nil (text : Text) : components text ≠ [] := by
  cases text with
  | nil => simp [components]
  | cons c rest =>
      simp only [components]
      split
      · simp
      · split <;> simp

/-- Joining after cutting restores the text. -/
@[simp] theorem join_components (text : Text) : join (components text) = text := by
  induction text with
  | nil => rfl
  | cons c rest ih =>
      simp only [components]
      split
      · next hslash =>
          subst hslash
          cases hcut : components rest with
          | nil => exact absurd hcut (components_ne_nil rest)
          | cons first others => rw [hcut] at ih; simp [join, ih]
      · cases hcut : components rest with
        | nil => exact absurd hcut (components_ne_nil rest)
        | cons first others =>
            rw [hcut] at ih
            cases others with
            | nil => simpa [join] using ih
            | cons second more => simpa [join] using ih

/-- No component holds a separator. -/
theorem slash_not_mem_of_mem_components {text part : Text}
    (h : part ∈ components text) : slash ∉ part := by
  induction text generalizing part with
  | nil => simp [components] at h; simp [h]
  | cons c rest ih =>
      simp only [components] at h
      split at h
      · rcases List.mem_cons.1 h with rfl | h
        · simp
        · exact ih h
      · next hc =>
          cases hcut : components rest with
          | nil => exact absurd hcut (components_ne_nil rest)
          | cons first others =>
              rw [hcut] at h ih
              rcases List.mem_cons.1 h with rfl | h
              · simpa [Ne.symm hc] using ih (List.mem_cons_self ..)
              · exact ih (List.mem_cons_of_mem _ h)

/-- A component that precedes a separator is cut off whole. -/
theorem components_append_slash {part : Text} (hpart : slash ∉ part) (rest : Text) :
    components (part ++ slash :: rest) = part :: components rest := by
  induction part with
  | nil => simp [components]
  | cons c part ih =>
      simp only [List.mem_cons, not_or] at hpart
      simp [components, Ne.symm hpart.1, ih hpart.2]

/-- A text without separators is its only component. -/
theorem components_of_slash_not_mem {part : Text} (hpart : slash ∉ part) :
    components part = [part] := by
  induction part with
  | nil => rfl
  | cons c part ih =>
      simp only [List.mem_cons, not_or] at hpart
      simp [components, Ne.symm hpart.1, ih hpart.2]

/-- Cutting after joining restores the components. -/
theorem components_join {parts : List Text} (hne : parts ≠ [])
    (hparts : ∀ part ∈ parts, slash ∉ part) : components (join parts) = parts := by
  induction parts with
  | nil => exact absurd rfl hne
  | cons first others ih =>
      cases others with
      | nil => simpa [join] using components_of_slash_not_mem (hparts first (by simp))
      | cons second more =>
          simp only [join]
          rw [components_append_slash (hparts first (by simp))]
          rw [ih (by simp) (fun part hmem => hparts part (List.mem_cons_of_mem _ hmem))]

/-- The components that are not empty. -/
def solidComponents (text : Text) : List Text :=
  (components text).filter (fun part => !part.isEmpty)

end ArtifactDepot.Text
