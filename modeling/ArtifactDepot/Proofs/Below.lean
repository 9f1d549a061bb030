import ArtifactDepot.Path
import ArtifactDepot.Path.Plain

/-!
# Paths below a root

The walk of a directory continues the path of its root by names, one after
the other.  `Path.below` is the path that this leads to.  It can be joined
from its parts, seen from the root and taken apart again, which is what ties
the entries of a replica to those of its source.
-/

namespace ArtifactDepot

open Text (slash)

namespace Text

/-- Names that can be components: none is empty and none holds a separator. -/
def Solid (names : List Text) : Prop := ∀ name ∈ names, name ≠ [] ∧ slash ∉ name

instance (names : List Text) : Decidable (Solid names) :=
  inferInstanceAs (Decidable (∀ name ∈ names, name ≠ [] ∧ slash ∉ name))

namespace Solid

variable {names others : List Text} {name : Text}

theorem nil : Solid [] := nofun

theorem append (h : Solid names) (hothers : Solid others) : Solid (names ++ others) := by
  intro name hname
  rcases List.mem_append.1 hname with hname | hname
  · exact h name hname
  · exact hothers name hname

theorem left (h : Solid (names ++ others)) : Solid names :=
  fun name hname => h name (List.mem_append_left _ hname)

theorem right (h : Solid (names ++ others)) : Solid others :=
  fun name hname => h name (List.mem_append_right _ hname)

theorem head (h : Solid (name :: names)) : name ≠ [] ∧ slash ∉ name := h name (List.mem_cons_self ..)

theorem tail (h : Solid (name :: names)) : Solid names :=
  fun other hother => h other (List.mem_cons_of_mem _ hother)

theorem singleton (h : name ≠ [] ∧ slash ∉ name) : Solid [name] := by
  intro other hother
  rw [List.mem_singleton.1 hother]
  exact h

end Solid

/-- The components that are not empty are solid. -/
theorem solid_solidComponents (text : Text) : Solid (solidComponents text) := by
  intro name hname
  obtain ⟨hmem, hsome⟩ := List.mem_filter.1 hname
  exact ⟨by simpa using hsome, slash_not_mem_of_mem_components hmem⟩

/-- A separator cuts a text into those before and after it. -/
theorem components_append (left right : Text) :
    components (left ++ slash :: right) = components left ++ components right := by
  induction left with
  | nil => simp [components]
  | cons c left ih =>
      by_cases hslash : c = slash
      · simp [components, hslash, ih]
      · cases hcut : components left with
        | nil => exact absurd hcut (components_ne_nil left)
        | cons first others =>
            rw [List.cons_append]
            simp only [components, if_neg hslash, ih, hcut, List.cons_append]

/-- The same for the components that are not empty. -/
theorem solidComponents_append (left right : Text) :
    solidComponents (left ++ slash :: right) = solidComponents left ++ solidComponents right := by
  rw [solidComponents, components_append, List.filter_append]
  rfl

/-- Names that are joined are cut apart again. -/
theorem solidComponents_join {names : List Text} (h : Solid names) :
    solidComponents (join names) = names := by
  cases names with
  | nil => rfl
  | cons name names =>
      have hcut : components (join (name :: names)) = name :: names :=
        components_join (List.cons_ne_nil _ _) fun part hpart => (h part hpart).2
      rw [solidComponents, hcut, List.filter_eq_self]
      intro part hpart
      simpa using (h part hpart).1

/-- One separator is put before every name but the first one. -/
theorem join_cons (name : Text) (names : List Text) :
    join (name :: names) = name ++ names.flatMap (slash :: ·) := by
  induction names generalizing name with
  | nil => simp [join]
  | cons next names ih => rw [join, ih next, List.flatMap_cons, List.cons_append]

/-- A separator stands between names that are joined and the next ones. -/
theorem join_append {names others : List Text} (hne : names ≠ []) (hothers : others ≠ []) :
    join (names ++ others) = join names ++ slash :: join others := by
  obtain ⟨name, names, rfl⟩ := List.exists_cons_of_ne_nil hne
  obtain ⟨other, others, rfl⟩ := List.exists_cons_of_ne_nil hothers
  simp [join_cons]

/-- Joined names begin with no separator. -/
theorem join_not_open {names : List Text} (h : Solid names) :
    [slash].isPrefixOf (join names) = false := by
  cases names with
  | nil => rfl
  | cons name names =>
      obtain ⟨hne, hfree⟩ := h.head
      cases name with
      | nil => exact absurd rfl hne
      | cons c name =>
          rw [join_cons, List.cons_append]
          have hc : slash ≠ c := fun heq => hfree (heq ▸ List.mem_cons_self ..)
          simp [List.isPrefixOf, hc]

/-- A common front does not matter for the order of texts. -/
theorem append_lt_append_iff {front left right : Text} :
    front ++ left < front ++ right ↔ left < right := by
  constructor
  · intro hlt
    apply Classical.byContradiction
    intro hnot
    rcases List.le_iff_lt_or_eq.1 (List.not_lt.1 hnot) with hother | rfl
    · exact List.lt_asymm hlt (List.append_left_lt hother)
    · exact List.lt_irrefl _ hlt
  · exact List.append_left_lt

/-- Every character takes at least one byte. -/
theorem length_le_byteLength (text : Text) : text.length ≤ byteLength text := by
  have hfold (total : Nat) :
      total + text.length ≤ text.foldl (fun total c => total + c.utf8Size) total := by
    induction text generalizing total with
    | nil => exact Nat.le_refl _
    | cons c text ih =>
        have hstep := ih (total + c.utf8Size)
        have hchar := c.utf8Size_pos
        rw [List.length_cons, List.foldl_cons]
        omega
  simpa [byteLength] using hfold 0

/-- The bytes of a text are those of its parts. -/
theorem byteLength_append (front rest : Text) :
    byteLength (front ++ rest) = byteLength front + byteLength rest := by
  have hfold (total : Nat) (text : Text) :
      text.foldl (fun total c => total + c.utf8Size) total = total + byteLength text := by
    induction text generalizing total with
    | nil => rfl
    | cons c text ih =>
        rw [byteLength, List.foldl_cons, List.foldl_cons, ih, ih (0 + _)]
        omega
  rw [byteLength, List.foldl_append, hfold]
  rfl

/-- Joined names are empty just when there are none. -/
theorem join_eq_nil {names : List Text} (h : Solid names) : join names = [] ↔ names = [] := by
  cases names with
  | nil => simp [join]
  | cons name names => simp [join_cons, h.head.1]

end Text

namespace Path

/-- The path to which names lead from a root. -/
def below (root : Text) (names : List Text) : Text := root ++ names.flatMap (slash :: ·)

@[simp] theorem below_nil (root : Text) : below root [] = root := by simp [below]

theorem below_append (root : Text) (names others : List Text) :
    below root (names ++ others) = below (below root names) others := by
  simp [below]

/-- Every name makes a path longer. -/
theorem length_le_below (root : Text) (names : List Text) :
    root.length + names.length ≤ (below root names).length := by
  induction names generalizing root with
  | nil => exact Nat.le_of_eq (by rw [below_nil, List.length_nil, Nat.add_zero])
  | cons name names ih =>
      have hrest := ih root
      simp only [below, List.length_append, List.flatMap_cons, List.length_cons] at hrest ⊢
      omega

/-- Fewer names make a shorter path. -/
theorem byteLength_below_le (root : Text) {names others : List Text} (h : names <+: others) :
    Text.byteLength (below root names) ≤ Text.byteLength (below root others) := by
  obtain ⟨rest, rfl⟩ := h
  have hsplit : below (below root names) rest = below root names ++ rest.flatMap (slash :: ·) := rfl
  rw [below_append, hsplit, Text.byteLength_append]
  exact Nat.le_add_right _ _

/-- The names are spelled out in what lies below a path. -/
theorem mem_below_of_name {root name : Text} {names : List Text} {c : Char} (hname : name ∈ names)
    (h : c ∈ name) : c ∈ below root names :=
  List.mem_append_right _ (List.mem_flatMap.2 ⟨name, hname, List.mem_cons_of_mem _ h⟩)

/-- What lies below a path is spelled with the path, the names and separators. -/
theorem mem_below {root : Text} {names : List Text} {c : Char} (h : c ∈ below root names) :
    c ∈ root ∨ c = slash ∨ ∃ name ∈ names, c ∈ name := by
  rcases List.mem_append.1 h with h | h
  · exact Or.inl h
  · obtain ⟨name, hname, h⟩ := List.mem_flatMap.1 h
    rcases List.mem_cons.1 h with h | h
    · exact Or.inr (Or.inl h)
    · exact Or.inr (Or.inr ⟨name, hname, h⟩)

theorem below_singleton (root name : Text) : below root [name] = root ++ slash :: name := by
  simp [below]

/-- One separator joins a root to names that are not missing. -/
theorem below_eq_append_join (root : Text) {names : List Text} (h : names ≠ []) :
    below root names = root ++ slash :: Text.join names := by
  cases names with
  | nil => exact absurd rfl h
  | cons name names => rw [below, Text.join_cons, List.flatMap_cons, List.cons_append]

/-- Joined names are a path below the first of them. -/
theorem join_eq_below (name : Text) (names : List Text) :
    Text.join (name :: names) = below name names := Text.join_cons name names

/-- A path ends in the separator that is put behind it. -/
theorem endsOpen_concat (path : Text) : endsOpen (path ++ [slash]) = true := by simp [endsOpen]

/-- A path that can be continued by a name as it is: not empty, and with no trailing separator. -/
def IsRoot (path : Text) : Prop := path ≠ [] ∧ endsOpen path = false

namespace IsRoot

variable {root name : Text} {names : List Text}

/-- What ends in a root can be continued. -/
theorem append (front : Text) (h : IsRoot root) : IsRoot (front ++ root) := by
  obtain ⟨hne, hclosed⟩ := h
  refine ⟨by simp [hne], ?_⟩
  rw [← Bool.not_eq_true, endsOpen, List.isSuffixOf_iff_suffix] at hclosed ⊢
  rintro ⟨rest, hrest⟩
  have hlast : (front ++ root).getLast? = some slash := by rw [← hrest, List.getLast?_concat]
  rw [List.getLast?_append, List.getLast?_eq_some_getLast hne, Option.some_or] at hlast
  refine hclosed ⟨root.dropLast, ?_⟩
  rw [← Option.some.inj hlast, List.dropLast_concat_getLast hne]

/-- A name can be continued. -/
theorem of_name (h : name ≠ [] ∧ slash ∉ name) : IsRoot name := by
  refine ⟨h.1, ?_⟩
  rw [← Bool.not_eq_true, endsOpen, List.isSuffixOf_iff_suffix]
  exact fun hopen => h.2 (hopen.subset (List.mem_singleton_self slash))

/-- What ends in a name can be continued. -/
theorem append_name (front : Text) (h : name ≠ [] ∧ slash ∉ name) : IsRoot (front ++ name) :=
  (of_name h).append front

/-- A root that names were put below can be continued again. -/
theorem below (h : IsRoot root) (hnames : Text.Solid names) : IsRoot (below root names) := by
  rcases List.eq_nil_or_concat names with rfl | ⟨init, last, rfl⟩
  · rw [below_nil]
    exact h
  · rw [List.concat_eq_append] at hnames ⊢
    have hlast := append_name (Path.below root init ++ [slash]) (hnames last (by simp))
    rwa [List.append_assoc, List.singleton_append, ← below_singleton, ← below_append] at hlast

/-- Joining a name puts it below. -/
theorem join_name (h : IsRoot root) (hname : name ≠ [] ∧ slash ∉ name) :
    join [root, name] = Path.below root [name] := by
  have hrelative : isAbsolute name = false := by
    rw [← Text.join_not_open (Text.Solid.singleton hname)]
    rfl
  have hroot : root.isEmpty = false := by simpa using h.1
  have hempty : name.isEmpty = false := by simpa using hname.1
  have hstep : join [root, name] = extend (join [root]) name := join_append_singleton [root] name
  rw [hstep, join_singleton, below_singleton, extend, hempty, hroot, hrelative, h.2]
  rfl

/-- Joining names that were joined before puts them below. -/
theorem join_names (h : IsRoot root) (hne : names ≠ []) (hnames : Text.Solid names) :
    join [root, Text.join names] = Path.below root names := by
  have hrelative : isAbsolute (Text.join names) = false := Text.join_not_open hnames
  have hroot : root.isEmpty = false := by simpa using h.1
  have hempty : (Text.join names).isEmpty = false := by
    simpa [Text.join_eq_nil hnames] using hne
  have hstep : join [root, Text.join names] = extend (join [root]) (Text.join names) :=
    join_append_singleton [root] (Text.join names)
  rw [hstep, join_singleton, below_eq_append_join root hne, extend, hempty, hroot, hrelative, h.2]
  rfl

/-- A root has no trailing separators to lose. -/
theorem trimEnd_eq (h : IsRoot root) : Text.trimEnd slash root = root := by
  obtain ⟨hne, hclosed⟩ := h
  rcases List.eq_nil_or_concat root with rfl | ⟨front, last, rfl⟩
  · exact absurd rfl hne
  · have hlast : last ≠ slash := by
      rintro rfl
      rw [endsOpen, ← Bool.not_eq_true, List.isSuffixOf_iff_suffix] at hclosed
      exact hclosed ⟨front, by simp⟩
    rw [Text.trimEnd]
    simp [hlast]

/-- Names that were put below a root are what is seen from there. -/
theorem relative?_below (h : IsRoot root) (hnames : Text.Solid names) :
    relative? (Path.below root names) root = some (Text.join names) := by
  rw [relative?, h.trimEnd_eq]
  by_cases hne : names = []
  · rw [hne, below_nil, if_pos rfl]
    rfl
  · have hcut : Text.afterPrefix? (root ++ [slash]) (Path.below root names) =
        some (Text.join names) := by
      rw [below_eq_append_join root hne, Text.afterPrefix?_eq_some_iff]
      simp
    have hlonger : Path.below root names ≠ root := by simp [below_eq_append_join root hne]
    rw [if_neg hlonger, hcut, Option.map_some, Text.trimStart]
    have hfirst := Text.join_not_open hnames
    cases hjoined : Text.join names with
    | nil => rfl
    | cons c rest =>
        rw [hjoined] at hfirst
        have hc : (c == slash) = false := by
          rw [BEq.comm]
          simpa [List.isPrefixOf] using hfirst
        rw [List.dropWhile_cons_of_neg (by simp [hc])]

end IsRoot

/-- The components of a path below a root. -/
theorem solidComponents_below (root : Text) {names : List Text} (h : Text.Solid names) :
    Text.solidComponents (below root names) = Text.solidComponents root ++ names := by
  by_cases hne : names = []
  · rw [hne, below_nil, List.append_nil]
  · rw [below_eq_append_join root hne, Text.solidComponents_append, Text.solidComponents_join h]

/-- Different names lead to different paths. -/
theorem below_injective {root : Text} {names others : List Text} (h : Text.Solid names)
    (hothers : Text.Solid others) (heq : below root names = below root others) :
    names = others := by
  have hcut := solidComponents_below root h
  rw [heq, solidComponents_below root hothers] at hcut
  exact (List.append_cancel_left hcut).symm

/-- Paths below a root are ordered as what follows it. -/
theorem below_lt_below {root : Text} {names others : List Text} (hne : names ≠ [])
    (hothers : others ≠ []) :
    below root names < below root others ↔ Text.join names < Text.join others := by
  have hcut (names : List Text) (hne : names ≠ []) :
      below root names = (root ++ [slash]) ++ Text.join names := by
    rw [below_eq_append_join root hne, List.append_assoc, List.singleton_append]
  rw [hcut names hne, hcut others hothers, Text.append_lt_append_iff]

end Path

end ArtifactDepot
