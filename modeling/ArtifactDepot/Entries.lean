/-!
# Entries

Finite maps as lists of entries in the order in which their keys were first
put.  A key that is there keeps its place when its value changes, so walking
the entries visits the keys in an order that later changes do not disturb.
`lookup_put` and `lookup_drop` say what is found after a change.
-/

namespace ArtifactDepot.Entries

variable {κ α : Type} [BEq κ]

/-- Put a value under a key: in the place of the old one, or after the other entries. -/
def put (key : κ) (value : α) : List (κ × α) → List (κ × α)
  | [] => [(key, value)]
  | first :: others =>
      if first.1 == key then (key, value) :: others else first :: put key value others

/-- The entries without a key. -/
def drop (key : κ) (entries : List (κ × α)) : List (κ × α) :=
  entries.filter (fun entry => entry.1 != key)

variable [LawfulBEq κ]

/-- Putting a value changes what is found under its key and nowhere else. -/
theorem lookup_put (key other : κ) (value : α) (entries : List (κ × α)) :
    (put key value entries).lookup other =
      if other == key then some value else entries.lookup other := by
  induction entries with
  | nil => cases h : other == key <;> simp [put, List.lookup_cons, h]
  | cons first others ih =>
      obtain ⟨there, first⟩ := first
      simp only [put]
      split
      · next hthere =>
          have heq : there = key := eq_of_beq hthere
          subst heq
          cases h : other == there <;> simp [List.lookup_cons, h]
      · next hthere =>
          cases h : other == there with
          | false => simpa [List.lookup_cons, h] using ih
          | true =>
              cases eq_of_beq h
              simp [hthere]

/-- Nothing is found under a key that was dropped, and elsewhere what there was. -/
theorem lookup_drop (key other : κ) (entries : List (κ × α)) :
    (drop key entries).lookup other = if other == key then none else entries.lookup other := by
  induction entries with
  | nil => simp [drop]
  | cons first others ih =>
      obtain ⟨there, first⟩ := first
      simp only [drop, List.filter_cons, bne] at ih ⊢
      cases hthere : there == key with
      | true =>
          have heq : there = key := eq_of_beq hthere
          subst heq
          cases h : other == there with
          | false => simpa [List.lookup_cons, h] using ih
          | true => simpa [h] using ih
      | false =>
          cases h : other == there with
          | false => simpa [List.lookup_cons, h] using ih
          | true =>
              cases eq_of_beq h
              simp [hthere]

/-- A new key comes last, and no other key moves. -/
theorem keys_put (key : κ) (value : α) (entries : List (κ × α)) :
    (put key value entries).map Prod.fst =
      if (entries.map Prod.fst).contains key then entries.map Prod.fst
      else entries.map Prod.fst ++ [key] := by
  induction entries with
  | nil => simp [put]
  | cons first others ih =>
      simp only [put]
      split
      · next hfirst =>
          cases eq_of_beq hfirst
          simp
      · next hfirst =>
          have hne : (key == first.1) = false := by
            rw [BEq.comm]
            simpa using hfirst
          simp only [List.map_cons, List.contains_cons, hne, Bool.false_or, ih]
          split <;> simp

/-- Where values change by their keys, what is found changes in the same way. -/
theorem lookup_map {β : Type} (change : κ → α → β) (key : κ) (entries : List (κ × α)) :
    (entries.map fun entry => (entry.1, change entry.1 entry.2)).lookup key =
      (entries.lookup key).map (change key) := by
  induction entries with
  | nil => rfl
  | cons first others ih =>
      obtain ⟨there, value⟩ := first
      rw [List.map_cons, List.lookup_cons, List.lookup_cons]
      cases hkey : key == there with
      | true =>
          cases eq_of_beq hkey
          rfl
      | false => exact ih

end ArtifactDepot.Entries
