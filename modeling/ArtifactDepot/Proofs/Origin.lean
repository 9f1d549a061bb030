import ArtifactDepot.Proofs.Asking
import ArtifactDepot.Proofs.Store
import ArtifactDepot.Proofs.Temporary

/-!
# What a walk sees of its source

A walk sees its source by names only: each list of names spells a key, and
the bucket says whether that key is a directory, which children it has and
what it holds.  The lists of names that the walk can come to are the
reachable ones, and a replica mirrors some of them if it holds what the
source does there, and nothing else (`Origin.Mirrors`).
-/

namespace ArtifactDepot

open Text (slash)

/-- The source of a walk: its canonical path, and the bucket that it lies in. -/
structure Origin where
  kind : Kind
  root : Text
  /-- The name of the bucket. -/
  name : Text
  bucket : Bucket

namespace Origin

/-- The key that names spell below the source, unless what they spell is malformed. -/
def spell (origin : Origin) (names : List Text) : Option Text :=
  match Backend.addressOf origin.kind (Path.below origin.root names) with
  | .ok (_, key) => some key
  | .error _ => none

/-- Do the names lead to a directory? -/
def isDirectory (origin : Origin) (names : List Text) : Bool :=
  (origin.spell names).any origin.bucket.hasDirectory

/-- The names that go on from there. -/
def children (origin : Origin) (names : List Text) : Names :=
  ((origin.spell names).map origin.bucket.children).getD .empty

/-- The content of the file to which the names lead. -/
def content? (origin : Origin) (names : List Text) : Option ByteArray :=
  (origin.spell names).bind origin.bucket.content?

/-- What is put into a replica for the names: an empty directory, or a file. -/
def image? (origin : Origin) (names : List Text) : Option Node :=
  if origin.isDirectory names then some (.directory Local.directoryMode 0 [])
  else (origin.content? names).map (.file · 0)

/-- What is transferred for the names: nothing for a directory. -/
def transfers (origin : Origin) (names : List Text) : List Call :=
  if origin.isDirectory names then []
  else ((origin.spell names).map (Call.transfersOf origin.kind origin.name)).getD []

/-- The names lead somewhere below the source. -/
inductive Reachable (origin : Origin) : List Text → Prop where
  | top {name : Text} (h : name ∈ origin.children []) : Reachable origin [name]
  | child {names : List Text} {name : Text} (hnames : Reachable origin names)
      (hdirectory : origin.isDirectory names = true) (h : name ∈ origin.children names) :
      Reachable origin (names ++ [name])

/-- Names that a walk can come to are never missing. -/
theorem Reachable.ne_nil {origin : Origin} {names : List Text} (h : origin.Reachable names) :
    names ≠ [] := by
  cases h with
  | top h => simp
  | child hnames hdirectory h => simp

/-- Everything in the bucket of the source is spelled in that bucket. -/
structure Sound (origin : Origin) : Prop where
  remote : origin.kind ≠ .disk
  isRoot : Path.IsRoot origin.root
  sameBucket : ∀ {names name key}, Text.Solid names →
    Backend.addressOf origin.kind (Path.below origin.root names) = .ok (name, key) →
      name = origin.name

variable {origin : Origin} {names : List Text} {last : Text}

/-- The children of a directory have solid names. -/
theorem solid_children (origin : Origin) (names : List Text) :
    Text.Solid (origin.children names).toList := by
  unfold children
  cases origin.spell names with
  | none => exact Text.Solid.nil
  | some key => exact Key.solid_children _ _

theorem Reachable.solid (h : origin.Reachable names) : Text.Solid names := by
  induction h with
  | top h => exact .singleton (solid_children origin [] _ h)
  | child hnames hdirectory h ih => exact ih.append (.singleton (solid_children origin _ _ h))

/-- What is put into a replica has nothing in it. -/
theorem image?_leaf {node : Node} (h : origin.image? names = some node) (name : Text)
    (rest : List Text) : Node.find? (name :: rest) node = none := by
  unfold image? at h
  split at h
  · cases h
    rfl
  · obtain ⟨content, -, rfl⟩ := Option.map_eq_some_iff.1 h
    rfl

/-- What lies above reachable names is the source or a directory that is reachable itself. -/
theorem Reachable.parent (h : origin.Reachable names) :
    names.dropLast = [] ∨
      origin.Reachable names.dropLast ∧ origin.isDirectory names.dropLast = true := by
  cases h with
  | top h => exact Or.inl rfl
  | child hnames hdirectory h =>
      rw [List.dropLast_concat]
      exact Or.inr ⟨hnames, hdirectory⟩

/-- Whatever is reachable through a name is one of the children there. -/
theorem reachable_concat_iff {name : Text} :
    origin.Reachable (names ++ [name]) ↔
      (names = [] ∨ origin.Reachable names ∧ origin.isDirectory names = true) ∧
        name ∈ origin.children names := by
  constructor
  · intro h
    generalize heq : names ++ [name] = full at h
    cases h with
    | top h =>
        obtain ⟨rfl, hname⟩ := List.append_inj' (heq.trans (List.nil_append _).symm) rfl
        cases hname
        exact ⟨Or.inl rfl, h⟩
    | child hnames hdirectory h =>
        obtain ⟨rfl, hname⟩ := List.append_inj' heq rfl
        cases hname
        exact ⟨Or.inr ⟨hnames, hdirectory⟩, h⟩
  · rintro ⟨rfl | ⟨hnames, hdirectory⟩, h⟩
    · exact .top h
    · exact .child hnames hdirectory h

/-- If nothing of one length is reachable, nothing longer is. -/
theorem length_lt_of_none {length : Nat} (hpos : 0 < length)
    (hnone : ∀ names, origin.Reachable names → names.length ≠ length) (h : origin.Reachable names) :
    names.length < length := by
  induction h with
  | top h =>
      have hlength := hnone _ (.top h)
      rw [List.length_singleton] at hlength ⊢
      omega
  | child hnames hdirectory h ih =>
      have hlength := hnone _ (.child hnames hdirectory h)
      rw [List.length_append, List.length_singleton] at hlength ⊢
      omega

/-! ## Mirrors -/

/-- What a replica holds at names, once the trail has been copied into it. -/
def itemAfter (origin : Origin) (trail : List (List Text)) (names : List Text) :
    Option Node.Item :=
  if names = [] then some (.directory Local.directoryMode 0)
  else if names ∈ trail then (origin.image? names).map Node.item
  else none

/-- There is a file for the names of a trail that lead to one. -/
theorem itemAfter_eq_file_iff {trail : List (List Text)} {content : ByteArray} {modified : Int} :
    origin.itemAfter trail names = some (.file content modified) ↔
      names ≠ [] ∧ (names ∈ trail ∧ ¬ origin.isDirectory names = true) ∧
        origin.content? names = some content ∧ modified = 0 := by
  unfold itemAfter image?
  by_cases hne : names = []
  · simp [hne]
  · by_cases hmem : names ∈ trail
    · by_cases hdirectory : origin.isDirectory names = true
      · simp [hne, hmem, hdirectory, Node.item]
      · cases hcontent : origin.content? names with
        | none => simp [hne, hmem, hdirectory]
        | some found => simp [hne, hmem, hdirectory, Node.item, eq_comm]
    · simp [hne, hmem]

/-- There is a directory at the top and for the names of a trail that lead to one. -/
theorem itemAfter_eq_directory_iff {trail : List (List Text)} {mode : Nat} {modified : Int} :
    origin.itemAfter trail names = some (.directory mode modified) ↔
      mode = Local.directoryMode ∧ modified = 0 ∧
        (names = [] ∨ names ∈ trail ∧ origin.isDirectory names = true) := by
  unfold itemAfter image?
  by_cases hne : names = []
  · simp [hne, eq_comm (a := mode), eq_comm (a := modified)]
  · by_cases hmem : names ∈ trail
    · by_cases hdirectory : origin.isDirectory names = true
      · simp [hne, hmem, hdirectory, Node.item, eq_comm (a := mode), eq_comm (a := modified)]
      · cases hcontent : origin.content? names with
        | none => simp [hne, hmem, hdirectory]
        | some found => simp [hne, hmem, hdirectory, Node.item]
    · simp [hne, hmem]

/-- The replica holds what the source does along the trail, and nothing else. -/
structure Mirrors (origin : Origin) (trail : List (List Text)) (replica : Disk) : Prop where
  item_eq : ∀ names, Node.item? names replica.top = origin.itemAfter trail names
  ordinary : ∀ names ∈ trail, ∀ name ∈ names, Disk.Ordinary name

namespace Mirrors

variable {trail : List (List Text)} {replica : Disk}

/-- An empty directory mirrors an empty trail. -/
theorem blank (origin : Origin) : origin.Mirrors [] .blank where
  item_eq names := by
    cases names with
    | nil => rfl
    | cons name rest => rfl
  ordinary := nofun

/-- Nothing lies where the trail has not been. -/
theorem find?_eq_none (h : origin.Mirrors trail replica) (hne : names ≠ [])
    (hnot : names ∉ trail) : replica.find? names = none := by
  have hitem := h.item_eq names
  rw [itemAfter, if_neg hne, if_neg hnot] at hitem
  exact Option.map_eq_none_iff.1 hitem

/-- The directories of the trail stand. -/
theorem stands (h : origin.Mirrors trail replica)
    (hnames : names = [] ∨ names ∈ trail ∧ origin.isDirectory names = true) :
    replica.Stands names := by
  have hitem : Node.item? names replica.top = some (.directory Local.directoryMode 0) := by
    rw [h.item_eq, itemAfter]
    rcases hnames with rfl | ⟨hmem, hdirectory⟩
    · rfl
    · by_cases hne : names = []
      · rw [if_pos hne]
      · rw [if_neg hne, if_pos hmem, image?, if_pos hdirectory]
        rfl
  constructor
  · obtain ⟨node, hnode, hsame⟩ := Option.map_eq_some_iff.1 hitem
    refine ⟨node, hnode, ?_⟩
    cases node with
    | file content modified => cases hsame
    | directory mode modified entries => rfl
  · intro name hname
    rcases hnames with rfl | ⟨hmem, -⟩
    · cases hname
    · exact h.ordinary names hmem name hname

/-- What is put at the end of a trail is mirrored from then on. -/
theorem put (h : origin.Mirrors trail replica) {node : Node}
    (himage : origin.image? (names ++ [last]) = some node)
    (hparent : names = [] ∨ names ∈ trail ∧ origin.isDirectory names = true)
    (hlast : Disk.Ordinary last)
    (hlength : ∀ earlier ∈ trail, earlier.length ≤ (names ++ [last]).length) :
    origin.Mirrors (trail ++ [names ++ [last]]) (replica.putEntry node ⟨names, last⟩) := by
  have hstands := h.stands hparent
  constructor
  · intro other
    by_cases hinside : names ++ [last] <+: other
    · obtain ⟨rest, rfl⟩ := hinside
      have hfound : Node.find? ((names ++ [last]) ++ rest) (replica.putEntry node ⟨names, last⟩).top =
          Node.find? rest node :=
        Disk.find?_putEntry ⟨names, last⟩ hstands.directory node rest
      rw [Node.item?, hfound, itemAfter, if_neg (by simp)]
      cases rest with
      | nil =>
          rw [List.append_nil, if_pos (by simp), himage]
          rfl
      | cons name rest =>
          -- Nothing on the trail is longer, so nothing lies below the new node.
          have hnot : (names ++ [last]) ++ name :: rest ∉ trail ++ [names ++ [last]] := by
            intro hmem
            rcases List.mem_append.1 hmem with hmem | hmem
            · have hshort := hlength _ hmem
              simp only [List.length_append, List.length_cons] at hshort
              omega
            · have hsame := congrArg List.length (List.mem_singleton.1 hmem)
              simp only [List.length_append, List.length_cons] at hsame
              omega
          rw [if_neg hnot, image?_leaf himage]
          rfl
    · have hother : other ≠ names ++ [last] := by
        rintro rfl
        exact hinside (List.prefix_refl _)
      rw [Disk.item?_putEntry replica node ⟨names, last⟩ hinside, h.item_eq, itemAfter,
        itemAfter]
      simp [hother]
  · intro other hother name hname
    rcases List.mem_append.1 hother with hother | hother
    · exact h.ordinary other hother name hname
    · rw [List.mem_singleton.1 hother] at hname
      rcases List.mem_append.1 hname with hname | hname
      · exact hstands.ordinary name hname
      · rw [List.mem_singleton.1 hname]
        exact hlast

end Mirrors

end Origin

end ArtifactDepot
