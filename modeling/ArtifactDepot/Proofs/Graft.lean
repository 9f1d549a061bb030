import ArtifactDepot.Disk.Calls

/-!
# A node put into a free place

A replica is a node that is put where nothing was.  As long as all changes
stay inside of it, the disk is the old one with some node put there
(`Disk.update_putEntry`), nothing outside of it changes
(`Disk.item?_putEntry`), and taking it away again leaves the old disk
(`Disk.dropEntry_putEntry`).
-/

namespace ArtifactDepot

/-! ## Entries -/

namespace Entries

variable {κ α : Type} [BEq κ] [LawfulBEq κ]

/-- Only the last value that was put under a key counts. -/
theorem put_put (key : κ) (value other : α) (entries : List (κ × α)) :
    put key value (put key other entries) = put key value entries := by
  induction entries with
  | nil => simp [put]
  | cons first others ih =>
      cases hfirst : first.1 == key with
      | true => simp [put, hfirst]
      | false => simp [put, hfirst, ih]

/-- Dropping a key that was new leaves the entries that there were. -/
theorem drop_put {key : κ} (value : α) {entries : List (κ × α)} (h : entries.lookup key = none) :
    drop key (put key value entries) = entries := by
  induction entries with
  | nil => simp [put, drop]
  | cons first others ih =>
      rw [List.lookup_cons] at h
      cases hkey : key == first.1 with
      | true =>
          rw [hkey] at h
          cases h
      | false =>
          rw [hkey] at h
          have hfirst : (first.1 == key) = false := by rw [BEq.comm, hkey]
          have hrest : drop key (put key value others) = others := ih h
          have hkept : (first.1 != key) = true := by rw [bne, hfirst, Bool.not_false]
          rw [put, hfirst, if_neg Bool.false_ne_true, drop, List.filter_cons, if_pos hkept]
          exact congrArg (first :: ·) hrest

/-- Putting the value that is there changes nothing. -/
theorem put_lookup {key : κ} {value : α} {entries : List (κ × α)}
    (h : entries.lookup key = some value) : put key value entries = entries := by
  induction entries with
  | nil => cases h
  | cons first others ih =>
      obtain ⟨there, first⟩ := first
      rw [List.lookup_cons] at h
      cases hkey : key == there with
      | true =>
          rw [hkey] at h
          cases h
          cases eq_of_beq hkey
          simp [put]
      | false =>
          rw [hkey] at h
          have hthere : (there == key) = false := by rw [BEq.comm, hkey]
          simp only [put, hthere, if_neg Bool.false_ne_true, ih h]

end Entries

/-! ## Nodes -/

namespace Node

/-- Only the last node that was put under a name counts. -/
theorem withEntry_withEntry (name : Text) (new old node : Node) :
    withEntry name new (withEntry name old node) = withEntry name new node := by
  cases node with
  | file content modified => rfl
  | directory mode modified entries =>
      simp only [withEntry, Entries.put_put]

/-- Two updates of a place are one. -/
theorem update_update (place : List Text) (change again : Node → Node) (node : Node) :
    update place again (update place change node) = update place (again ∘ change) node := by
  induction place generalizing node with
  | nil => rfl
  | cons name place ih =>
      cases hchild : node.entries.lookup name with
      | none => simp only [update, hchild]
      | some child =>
          have hthere : (withEntry name (update place change child) node).entries.lookup name =
              some (update place change child) := by
            rw [lookup_withEntry _ hchild, if_pos rfl]
          simp only [update, hchild, hthere, withEntry_withEntry, ih]

/-- An update of a longer place is one inside of the node at its front. -/
theorem update_append (place rest : List Text) (change : Node → Node) (node : Node) :
    update (place ++ rest) change node = update place (update rest change) node := by
  induction place generalizing node with
  | nil => rfl
  | cons name place ih =>
      rw [List.cons_append]
      cases hchild : node.entries.lookup name with
      | none => simp only [update, hchild]
      | some child => simp only [update, hchild, ih]

/-- Changes that do the same to the node at a place are the same update. -/
theorem update_congr {place : List Text} {change other : Node → Node} {node : Node}
    (h : ∀ found, find? place node = some found → change found = other found) :
    update place change node = update place other node := by
  induction place generalizing node with
  | nil => exact h node rfl
  | cons name place ih =>
      cases hchild : node.entries.lookup name with
      | none => simp only [update, hchild]
      | some child =>
          have hrest : update place change child = update place other child :=
            ih fun found hfound => h found (by simpa only [find?, hchild] using hfound)
          simp only [update, hchild, hrest]

/-- A change that leaves the node at a place alone changes nothing. -/
theorem update_id (place : List Text) (node : Node) : update place id node = node := by
  induction place generalizing node with
  | nil => rfl
  | cons name place ih =>
      cases hchild : node.entries.lookup name with
      | none => simp only [update, hchild]
      | some child =>
          cases node with
          | file content modified => cases hchild
          | directory mode modified entries =>
              simp only [update, hchild, ih, withEntry]
              congr 1
              exact Entries.put_lookup hchild

/-- An entry of a directory is found under its name, and the others where they were. -/
theorem lookup_withEntry_directory {node : Node} (hdirectory : node.isDirectory = true)
    (name other : Text) (new : Node) :
    (withEntry name new node).entries.lookup other =
      if other = name then some new else node.entries.lookup other := by
  cases node with
  | file content modified => cases hdirectory
  | directory mode modified entries =>
      have hlookup := Entries.lookup_put name other new entries
      simp only [beq_iff_eq] at hlookup
      exact hlookup

end Node

/-! ## The disk -/

namespace Disk

/-- Nothing has the name, and there is a directory to put something into under it. -/
structure Vacant (disk : Disk) (entry : Entry) : Prop where
  parent : ∃ node, disk.find? entry.place = some node ∧ node.isDirectory = true
  free : disk.entryNode? entry = none

/-- The place of an entry. -/
def Entry.full (entry : Entry) : List Text := entry.place ++ [entry.name]

variable {disk : Disk} {entry : Entry}

/-- What is found under a name lies in a directory. -/
theorem parent_of_find? {node : Node} (h : disk.find? entry.full = some node) :
    ∃ parent, disk.find? entry.place = some parent ∧ parent.isDirectory = true := by
  have hnode : Node.find? (entry.place ++ [entry.name]) disk.top = some node := h
  rw [Node.find?_append] at hnode
  obtain ⟨parent, hparent, hchild⟩ := Option.bind_eq_some_iff.1 hnode
  refine ⟨parent, hparent, ?_⟩
  cases parent with
  | file content modified => cases hchild
  | directory mode modified entries => rfl

/-- What is found at and below the place of an entry that was put into a directory. -/
theorem find?_putEntry (entry : Entry)
    (h : ∃ parent, disk.find? entry.place = some parent ∧ parent.isDirectory = true)
    (node : Node) (names : List Text) :
    (disk.putEntry node entry).find? (entry.full ++ names) = Node.find? names node := by
  obtain ⟨parent, hparent, hdirectory⟩ := h
  have hfind : Node.find? entry.place disk.top = some parent := hparent
  rw [Entry.full, List.append_assoc, find?, putEntry, update, Node.find?_append_update, hfind,
    Option.bind_some, List.singleton_append, Node.find?,
    Node.lookup_withEntry_directory hdirectory, if_pos rfl]

/-- A change inside of an entry that was put is one of the node that was put. -/
theorem update_putEntry
    (h : ∃ parent, disk.find? entry.place = some parent ∧ parent.isDirectory = true)
    (node : Node) (names : List Text) (change : Node → Node) :
    (disk.putEntry node entry).update (entry.full ++ names) change =
      disk.putEntry (Node.update names change node) entry := by
  simp only [putEntry, update, Entry.full, List.append_assoc]
  rw [Node.update_append, Node.update_update]
  congr 1
  apply Node.update_congr
  intro parent hparent
  obtain ⟨found, hfound, hdirectory⟩ := h
  cases hparent.symm.trans hfound
  have hthere : (Node.withEntry entry.name node parent).entries.lookup entry.name = some node := by
    rw [Node.lookup_withEntry_directory hdirectory, if_pos rfl]
  simp only [Function.comp, List.singleton_append, Node.update, hthere, Node.withEntry_withEntry]

/-- Taking an entry away that was put leaves the disk that there was. -/
theorem dropEntry_putEntry (h : disk.Vacant entry) (node : Node) :
    (disk.putEntry node entry).dropEntry entry = disk := by
  obtain ⟨parent, hparent, hdirectory⟩ := h.parent
  have hfree : parent.entries.lookup entry.name = none := by
    have hnone := h.free
    rw [entryNode?, find?, Node.find?_append, show Node.find? entry.place disk.top = some parent
      from hparent, Option.bind_some, Node.find?] at hnone
    cases hlookup : parent.entries.lookup entry.name with
    | none => rfl
    | some child =>
        rw [hlookup] at hnone
        cases hnone
  have hundo : Node.update entry.place (Node.withoutEntry entry.name)
      (Node.update entry.place (Node.withEntry entry.name node) disk.top) = disk.top := by
    rw [Node.update_update]
    refine (Node.update_congr fun found hfound => ?_).trans (Node.update_id entry.place disk.top)
    have hsame : found = parent := Option.some.inj (hfound.symm.trans hparent)
    rw [hsame]
    cases parent with
    | file content modified => cases hdirectory
    | directory mode modified entries =>
        exact congrArg (Node.directory mode modified) (Entries.drop_put node hfree)
  simp only [dropEntry, putEntry, update, hundo]

/-- Only the last node that was put for an entry counts. -/
theorem putEntry_putEntry (disk : Disk) (new old : Node) (entry : Entry) :
    (disk.putEntry old entry).putEntry new entry = disk.putEntry new entry := by
  simp only [putEntry, update, Node.update_update]
  congr 2
  funext node
  exact Node.withEntry_withEntry entry.name new old node

/-- Nothing has changed but at and below a place. -/
def SameBut (place : List Text) (before after : Disk) : Prop :=
  ∀ other, ¬ place <+: other → Node.item? other after.top = Node.item? other before.top

/-- Putting an entry changes no item outside of its place. -/
theorem item?_putEntry (disk : Disk) (node : Node) (entry : Entry) {place : List Text}
    (h : ¬ entry.full <+: place) :
    Node.item? place (disk.putEntry node entry).top = Node.item? place disk.top := by
  by_cases habove : entry.place <+: place
  · obtain ⟨rest, rfl⟩ := habove
    rw [Node.item?, Node.item?, putEntry, update, Node.find?_append_update, Node.find?_append]
    cases Node.find? entry.place disk.top with
    | none => rfl
    | some parent =>
        cases rest with
        | nil => exact congrArg some (Node.item_withEntry entry.name node parent)
        | cons name rest =>
            have hname : name ≠ entry.name := by
              rintro rfl
              exact h ⟨rest, by simp [Entry.full]⟩
            cases parent with
            | file content modified => rfl
            | directory mode modified entries =>
                rw [Option.bind_some, Option.bind_some, Node.find?, Node.find?,
                  Node.lookup_withEntry_directory rfl, if_neg hname]
  · exact Node.item?_update habove _ disk.top

end Disk

end ArtifactDepot
