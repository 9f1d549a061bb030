import ArtifactDepot.Text.Basic

/-!
# Name sets

A finite set of names, kept as the strictly ascending list of its members.
The list is the only representation of its set, so two name sets with the
same members are equal, and walking one visits the names in code-point order.
-/

namespace ArtifactDepot

/-- A finite set of names in strictly ascending code-point order. -/
structure Names where
  toList : List Text
  ascending : toList.Pairwise (· < ·)

namespace Names

/-- Put a name into its place in an ascending list, unless it is there. -/
def insertInto (name : Text) : List Text → List Text
  | [] => [name]
  | first :: others =>
      if name < first then name :: first :: others
      else if name = first then first :: others
      else first :: insertInto name others

theorem mem_insertInto {name other : Text} {names : List Text} :
    other ∈ insertInto name names ↔ other = name ∨ other ∈ names := by
  induction names with
  | nil => simp [insertInto]
  | cons first others ih =>
      simp only [insertInto]
      split
      · simp
      · split
        · next heq => subst heq; simp
        · simp only [List.mem_cons, ih]
          constructor
          · rintro (h | h | h) <;> simp [h]
          · rintro (h | h | h) <;> simp [h]

theorem insertInto_ascending {name : Text} {names : List Text}
    (h : names.Pairwise (· < ·)) : (insertInto name names).Pairwise (· < ·) := by
  induction names with
  | nil => simp [insertInto]
  | cons first others ih =>
      rw [List.pairwise_cons] at h
      simp only [insertInto]
      split
      · next hlt =>
          rw [List.pairwise_cons, List.pairwise_cons]
          refine ⟨fun other hmem => ?_, h⟩
          rcases List.mem_cons.1 hmem with rfl | hmem
          · exact hlt
          · exact List.lt_trans hlt (h.1 other hmem)
      · next hnot =>
          split
          · rw [List.pairwise_cons]; exact h
          · next hne =>
              rw [List.pairwise_cons]
              refine ⟨fun other hmem => ?_, ih h.2⟩
              rcases mem_insertInto.1 hmem with rfl | hmem
              · rcases List.le_iff_lt_or_eq.1 (List.not_lt.1 hnot) with hlt | heq
                · exact hlt
                · exact absurd heq.symm hne
              · exact h.1 other hmem

/-- The set without names. -/
def empty : Names := ⟨[], .nil⟩

/-- The set with one more name. -/
def insert (name : Text) (names : Names) : Names :=
  ⟨insertInto name names.toList, insertInto_ascending names.ascending⟩

/-- The set of the names in a list. -/
def ofList (names : List Text) : Names := names.foldr insert empty

instance : Membership Text Names where
  mem names name := name ∈ names.toList

theorem mem_def {name : Text} {names : Names} : name ∈ names ↔ name ∈ names.toList := Iff.rfl

@[simp] theorem not_mem_empty (name : Text) : name ∉ empty := by
  simp [mem_def, empty]

@[simp] theorem mem_insert {name other : Text} {names : Names} :
    other ∈ names.insert name ↔ other = name ∨ other ∈ names :=
  mem_insertInto

/-- The set of a list has exactly the members of the list. -/
@[simp] theorem mem_ofList {name : Text} {names : List Text} :
    name ∈ ofList names ↔ name ∈ names := by
  induction names with
  | nil => simp [ofList]
  | cons first others ih =>
      simp only [ofList] at ih
      simp [ofList, ih]

/-- A name set is determined by its members. -/
theorem ext_mem {left right : Names} (h : ∀ name, name ∈ left ↔ name ∈ right) :
    left = right := by
  obtain ⟨left, hleft⟩ := left
  obtain ⟨right, hright⟩ := right
  suffices left = right by subst this; rfl
  simp only [mem_def] at h
  induction left generalizing right with
  | nil =>
      cases right with
      | nil => rfl
      | cons first others => exact absurd ((h first).2 (by simp)) (by simp)
  | cons x xs ih =>
      cases right with
      | nil => exact absurd ((h x).1 (by simp)) (by simp)
      | cons y ys =>
          rw [List.pairwise_cons] at hleft hright
          have hxy : x = y := by
            rcases List.mem_cons.1 ((h x).1 (by simp)) with heq | hx
            · exact heq
            · rcases List.mem_cons.1 ((h y).2 (by simp)) with heq | hy
              · exact heq.symm
              · exact absurd (hleft.1 y hy) (List.lt_asymm (hright.1 x hx))
          subst hxy
          rw [ih hleft.2 ys hright.2]
          intro name
          constructor
          · intro hmem
            rcases List.mem_cons.1 ((h name).1 (by simp [hmem])) with rfl | hmem'
            · exact absurd (hleft.1 name hmem) (List.lt_irrefl name)
            · exact hmem'
          · intro hmem
            rcases List.mem_cons.1 ((h name).2 (by simp [hmem])) with rfl | hmem'
            · exact absurd (hright.1 name hmem) (List.lt_irrefl name)
            · exact hmem'

/-- The members that pass a test. -/
def filter (keep : Text → Bool) (names : Names) : Names :=
  ⟨names.toList.filter keep, names.ascending.filter keep⟩

@[simp] theorem mem_filter {keep : Text → Bool} {name : Text} {names : Names} :
    name ∈ names.filter keep ↔ name ∈ names ∧ keep name = true := by
  simp [mem_def, filter]

/-- The members of either set. -/
def union (left right : Names) : Names := left.toList.foldr insert right

@[simp] theorem mem_union {name : Text} {left right : Names} :
    name ∈ left.union right ↔ name ∈ left ∨ name ∈ right := by
  obtain ⟨left, hleft⟩ := left
  simp only [union, mem_def]
  clear hleft
  induction left with
  | nil => simp
  | cons first others ih =>
      have := @mem_insert first name (others.foldr insert right)
      simp only [mem_def] at this
      simp [this, ih, or_assoc]

end Names

end ArtifactDepot
