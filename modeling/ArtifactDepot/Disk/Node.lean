import ArtifactDepot.Entries
import ArtifactDepot.Text.Names

/-!
# Nodes

The tree of files and directories.  A place is the list of the names that
lead to a node from the top, so whatever lies at a place lies in a directory.
All changes are made by `update`, which replaces the node at one place;
`find?_append_update` says what is found below that place afterwards, and
`item?_update` that nothing else has changed.
-/

namespace ArtifactDepot

/-- A file, or a directory with its entries by name. -/
inductive Node where
  /-- A file with its content and the nanosecond of its last change. -/
  | file (content : ByteArray) (modified : Int)
  /-- A directory with its permission bits, the nanosecond of its last change, and its entries. -/
  | directory (mode : Nat) (modified : Int) (entries : List (Text × Node))

namespace Node

/-- Is it a directory? -/
def isDirectory : Node → Bool
  | .directory .. => true
  | .file .. => false

/-- The entries of a directory; a file has none. -/
def entries : Node → List (Text × Node)
  | .directory _ _ entries => entries
  | .file .. => []

/-- The names in a directory. -/
def names (node : Node) : Names := Names.ofList (node.entries.map Prod.fst)

/-- The nanosecond of the last change. -/
def modified : Node → Int
  | .file _ modified | .directory _ modified _ => modified

/-- The permission bits; files have the usual ones. -/
def mode : Node → Nat
  | .file .. => 0o644
  | .directory mode _ _ => mode

/-- The content of a file. -/
def content? : Node → Option ByteArray
  | .file content _ => some content
  | .directory .. => none

/-! ## Changes at the top -/

/-- The node with another time of change. -/
def touched (modified : Int) : Node → Node
  | .file content _ => .file content modified
  | .directory mode _ entries => .directory mode modified entries

/-- The directory without its entries. -/
def emptied : Node → Node
  | .directory mode modified _ => .directory mode modified []
  | .file content modified => .file content modified

/-- The directory with an entry. -/
def withEntry (name : Text) (node : Node) : Node → Node
  | .directory mode modified entries => .directory mode modified (Entries.put name node entries)
  | .file content modified => .file content modified

/-- The directory without an entry. -/
def withoutEntry (name : Text) : Node → Node
  | .directory mode modified entries => .directory mode modified (Entries.drop name entries)
  | .file content modified => .file content modified

/-! ## Places -/

/-- The node at a place. -/
def find? : List Text → Node → Option Node
  | [], node => some node
  | name :: rest, node =>
      match node.entries.lookup name with
      | some child => find? rest child
      | none => none

/-- Replace the node at a place; if nothing lies there, nothing changes. -/
def update : List Text → (Node → Node) → Node → Node
  | [], change, node => change node
  | name :: rest, change, node =>
      match node.entries.lookup name with
      | some child => withEntry name (update rest change child) node
      | none => node

/-- What lies at a place, without what lies below it. -/
inductive Item where
  | file (content : ByteArray) (modified : Int)
  | directory (mode : Nat) (modified : Int)

/-- The item of a node. -/
def item : Node → Item
  | .file content modified => .file content modified
  | .directory mode modified _ => .directory mode modified

/-- The item at a place. -/
def item? (place : List Text) (node : Node) : Option Item := (find? place node).map item

mutual

/-- Every node below a directory with its place, as seen from there. -/
def inventory : Node → List (List Text × Node)
  | .file .. => []
  | .directory _ _ entries => inventoryOf entries

/-- Every node among and below some entries. -/
def inventoryOf : List (Text × Node) → List (List Text × Node)
  | [] => []
  | (name, node) :: others =>
      ([name], node) :: (inventory node).map (fun found => (name :: found.1, found.2)) ++
        inventoryOf others

end

mutual

/-- How many directories lie inside each other, the node included; empty ones do not count. -/
def depth : Node → Nat
  | .file .. | .directory _ _ [] => 0
  | .directory _ _ (first :: others) => depthOf (first :: others) + 1

/-- How many directories lie inside each other among some entries. -/
def depthOf : List (Text × Node) → Nat
  | [] => 0
  | (_, node) :: others => max (depth node) (depthOf others)

end

/-! ## Removing a tree -/

/--
What is left of entries that are removed one after the other: nothing, or the first one whose
removal breaks off, as much as is left of it, and all behind it.
-/
def spareOf (spare : Node → Option Node) : List (Text × Node) → Option (List (Text × Node))
  | [] => none
  | (name, node) :: others =>
      match spare node with
      | some rest => some ((name, rest) :: others)
      | none => spareOf spare others

/--
What is left of a node when everything in it is removed by going down so many directories and
no further; an empty directory is no step.  The entries of a directory are removed in the order
in which they are listed.
-/
def spare (before : Text → Text → Bool) : Nat → Node → Option Node
  | _, .file .. | 0, .directory _ _ [] => none
  | 0, .directory mode modified (first :: others) =>
      some (.directory mode modified (first :: others))
  | reach + 1, .directory mode modified entries =>
      (spareOf (spare before reach)
        (entries.mergeSort fun left right => before left.1 right.1)).map (.directory mode modified)

/-- Some entries are spared if and only if one of them is. -/
theorem spareOf_eq_none {keep : Node → Option Node} {entries : List (Text × Node)} :
    spareOf keep entries = none ↔ ∀ entry ∈ entries, keep entry.2 = none := by
  induction entries with
  | nil => simp [spareOf]
  | cons first others ih =>
      cases hfirst : keep first.2 with
      | none => simp [spareOf, hfirst, ih]
      | some rest => simp [spareOf, hfirst]

theorem depthOf_le {entries : List (Text × Node)} {bound : Nat} :
    depthOf entries ≤ bound ↔ ∀ entry ∈ entries, depth entry.2 ≤ bound := by
  induction entries with
  | nil => simp [depthOf]
  | cons first others ih =>
      rw [depthOf, Nat.max_le, ih]
      simp

/-- A tree is removed as a whole if its directories do not lie too deep inside each other. -/
theorem spare_eq_none {before : Text → Text → Bool} {reach : Nat} {node : Node} :
    spare before reach node = none ↔ node.depth ≤ reach := by
  induction reach generalizing node with
  | zero =>
      cases node with
      | file content modified => simp [spare, depth]
      | directory mode modified entries => cases entries <;> simp [spare, depth]
  | succ reach ih =>
      cases node with
      | file content modified => simp [spare, depth]
      | directory mode modified entries =>
          rw [spare, Option.map_eq_none_iff, spareOf_eq_none]
          simp only [List.mem_mergeSort, ih]
          cases entries with
          | nil => simp [depth]
          | cons first others => rw [depth, Nat.succ_le_succ_iff, depthOf_le]

/-- The directory at the top of a tree stays while anything of the tree is left. -/
theorem item_of_spare {before : Text → Text → Bool} {reach : Nat} {node rest : Node}
    (h : spare before reach node = some rest) : rest.item = node.item := by
  cases node with
  | file content modified => cases reach <;> cases h
  | directory mode modified entries =>
      cases reach with
      | zero =>
          cases entries with
          | nil => cases h
          | cons first others =>
              cases h
              rfl
      | succ reach =>
          rw [spare] at h
          obtain ⟨kept, -, rfl⟩ := Option.map_eq_some_iff.1 h
          rfl

/-! ## Views of the changes -/

/-- A node with entries is a directory, and putting an entry into it is seen under its name alone. -/
theorem lookup_withEntry {name other : Text} {node child : Node} (new : Node)
    (h : node.entries.lookup name = some child) :
    (withEntry name new node).entries.lookup other =
      if other = name then some new else node.entries.lookup other := by
  cases node with
  | file => simp [entries] at h
  | directory mode modified entries =>
      simpa [withEntry, Node.entries] using Entries.lookup_put name other new entries

/-- Putting an entry does not change what a directory is. -/
@[simp] theorem item_withEntry (name : Text) (new node : Node) :
    (withEntry name new node).item = node.item := by
  cases node <;> rfl

/-- Whether a node is a directory is seen on its item. -/
theorem isDirectory_of_item {node other : Node} (h : other.item = node.item)
    (hdirectory : node.isDirectory = true) : other.isDirectory = true := by
  cases node with
  | file content modified => cases hdirectory
  | directory mode modified entries =>
      cases other with
      | file content modified => cases h
      | directory mode modified entries => rfl

/-- A longer place is found from the node at its front. -/
theorem find?_append (place rest : List Text) (node : Node) :
    find? (place ++ rest) node = (find? place node).bind (find? rest) := by
  induction place generalizing node with
  | nil => rfl
  | cons name place ih =>
      simp only [List.cons_append, find?]
      cases node.entries.lookup name with
      | none => rfl
      | some child => exact ih child

/-- What is found at and below an updated place. -/
theorem find?_append_update (place rest : List Text) (change : Node → Node) (node : Node) :
    find? (place ++ rest) (update place change node) =
      (find? place node).bind (fun found => find? rest (change found)) := by
  induction place generalizing node with
  | nil => rfl
  | cons name place ih =>
      simp only [List.cons_append, find?, update]
      cases hchild : node.entries.lookup name with
      | none => simp [hchild]
      | some child =>
          simp only [lookup_withEntry _ hchild, if_true]
          exact ih child

/-- The updated place holds the changed node. -/
theorem find?_update (place : List Text) (change : Node → Node) (node : Node) :
    find? place (update place change node) = (find? place node).map change := by
  have h := find?_append_update place [] change node
  simp only [List.append_nil, find?] at h
  rw [h]
  cases find? place node <;> rfl

/-- An update changes no item outside of its place. -/
theorem item?_update {place other : List Text} (h : ¬ place <+: other) (change : Node → Node)
    (node : Node) : item? other (update place change node) = item? other node := by
  induction place generalizing other node with
  | nil => exact absurd (List.nil_prefix) h
  | cons name place ih =>
      simp only [update]
      cases hchild : node.entries.lookup name with
      | none => rfl
      | some child =>
          cases other with
          | nil => simp [item?, find?]
          | cons first other =>
              simp only [item?, find?, lookup_withEntry _ hchild]
              by_cases hfirst : first = name
              · subst hfirst
                have hrest : ¬ place <+: other := fun hp => h (by simpa using hp)
                simpa [item?, hchild] using ih hrest child
              · simp [hfirst]

end Node

end ArtifactDepot
