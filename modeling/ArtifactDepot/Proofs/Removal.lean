import ArtifactDepot.Proofs.Standing

/-!
# Removing a tree

What becomes of a disk when the directory at a place is removed with
everything in it, however it has come to lie there.  Nothing is left at and
below the place, and everything else stays (`Disk.find?_dropEntry`,
`Disk.item?_dropEntry`).  Where no directory lies the system refuses and
nothing is removed, and where directories lie too deep inside each other the
removal breaks off on the way: `Disk.LeadsTo.removeTree_eq` and
`Disk.LeadsTo.removeTree_refused`.
-/

namespace ArtifactDepot

open Text (slash)

/-- Dropping a key drops the value that was put under it last. -/
theorem Entries.drop_put_self {κ α : Type} [BEq κ] [LawfulBEq κ] (key : κ) (value : α)
    (entries : List (κ × α)) : drop key (put key value entries) = drop key entries := by
  unfold drop
  induction entries with
  | nil => simp [put]
  | cons first others ih =>
      cases hfirst : first.1 == key with
      | true => simp [put, eq_of_beq hfirst]
      | false => simp [put, hfirst, List.filter_cons, ih]

namespace Disk

variable {disk : Disk} {path last : Text} {names place : List Text}

/-! ## The disk without an entry -/

/-- What lay in an entry does not matter once the entry is gone. -/
theorem dropEntry_update (entry : Entry) (change : Node → Node) :
    (disk.update entry.full change).dropEntry entry = disk.dropEntry entry := by
  simp only [dropEntry, update, Entry.full]
  rw [Node.update_append, Node.update_update]
  congr 1
  apply Node.update_congr
  intro parent _
  cases parent with
  | file content modified => rfl
  | directory mode modified entries =>
      simp only [Function.comp, Node.update]
      split
      · exact congrArg (Node.directory mode modified) (Entries.drop_put_self _ _ _)
      · rfl

/-- Nothing is found at and below the place of an entry that is gone. -/
theorem find?_dropEntry (disk : Disk) (entry : Entry) (rest : List Text) :
    (disk.dropEntry entry).find? (entry.full ++ rest) = none := by
  rw [Entry.full, List.append_assoc, find?, dropEntry, update, Node.find?_append_update]
  cases Node.find? entry.place disk.top with
  | none => rfl
  | some parent =>
      cases parent with
      | file content modified => rfl
      | directory mode modified entries =>
          rw [Option.bind_some, List.singleton_append, Node.find?, Node.withoutEntry, Node.entries,
            Entries.lookup_drop, if_pos (beq_self_eq_true _)]

/-- Taking an entry away changes no item outside of its place. -/
theorem item?_dropEntry (disk : Disk) (entry : Entry) {place : List Text}
    (h : ¬ entry.full <+: place) :
    Node.item? place (disk.dropEntry entry).top = Node.item? place disk.top := by
  by_cases habove : entry.place <+: place
  · obtain ⟨rest, rfl⟩ := habove
    rw [Node.item?, Node.item?, dropEntry, update, Node.find?_append_update, Node.find?_append]
    cases Node.find? entry.place disk.top with
    | none => rfl
    | some parent =>
        cases parent with
        | file content modified => rfl
        | directory mode modified entries =>
            cases rest with
            | nil => rfl
            | cons name rest =>
                have hname : (name == entry.name) = false := by
                  refine beq_eq_false_iff_ne.2 ?_
                  rintro rfl
                  exact h ⟨rest, by simp [Entry.full]⟩
                rw [Option.bind_some, Option.bind_some, Node.find?, Node.find?, Node.withoutEntry,
                  Node.entries, Node.entries, Entries.lookup_drop, hname,
                  if_neg Bool.false_ne_true]
  · exact Node.item?_update habove _ disk.top

/-! ## A tree with a part removed -/

/-- Another node at the place of an entry is the entry put again. -/
theorem update_full {entry : Entry} {node : Node} (h : disk.find? entry.full = some node)
    (rest : Node) : disk.update entry.full (fun _ => rest) = disk.putEntry rest entry := by
  have hnode : Node.find? (entry.place ++ [entry.name]) disk.top = some node := h
  rw [Node.find?_append] at hnode
  obtain ⟨parent, hparent, hchild⟩ := Option.bind_eq_some_iff.1 hnode
  simp only [update, putEntry, Entry.full]
  rw [Node.update_append]
  congr 1
  apply Node.update_congr
  intro found hfound
  cases hfound.symm.trans hparent
  rw [Node.find?] at hchild
  cases hlookup : parent.entries.lookup entry.name with
  | none =>
      rw [hlookup] at hchild
      cases hchild
  | some child => simp only [Node.update, hlookup]

/-! ## Walking to a tree -/

/-- An ordinary name leads nowhere but to what is found under it. -/
theorem find?_of_follow {name : Text} {found : List Text} (hname : Ordinary name)
    (h : disk.follow place name = .ok found) :
    found = place ++ [name] ∧ ∃ node, disk.find? (place ++ [name]) = some node := by
  have hshort : ¬ nameLimit < Text.byteLength name := by
    have := hname.short
    omega
  simp only [follow, if_neg hname.ne_self, if_neg hname.ne_parent, enter, if_neg hshort] at h
  split at h
  · cases h
  · cases hnode : disk.find? (place ++ [name]) with
    | none =>
        rw [hnode] at h
        cases h
    | some node =>
        rw [hnode] at h
        cases h
        exact ⟨rfl, node, rfl⟩

/-- Ordinary names lead nowhere but to what is found at their place. -/
theorem find?_of_walk {found : List Text} (hnames : ∀ name ∈ names, Ordinary name)
    (hne : names ≠ []) (h : disk.walk place names = .ok found) :
    found = place ++ names ∧ ∃ node, disk.find? (place ++ names) = some node := by
  induction names generalizing place with
  | nil => exact absurd rfl hne
  | cons name names ih =>
      rw [walk, List.foldlM_cons] at h
      cases hstep : disk.follow place name with
      | error refusal =>
          rw [hstep] at h
          cases h
      | ok next =>
          rw [hstep] at h
          obtain ⟨rfl, node, hnode⟩ := find?_of_follow (hnames name (List.mem_cons_self ..)) hstep
          cases names with
          | nil =>
              cases h
              exact ⟨rfl, node, hnode⟩
          | cons other names =>
              have hrest := ih (fun other hother => hnames other (List.mem_cons_of_mem _ hother))
                (List.cons_ne_nil _ _) h
              rwa [← List.append_cons] at hrest

/-! ## Removing -/

/-- A path that leads from the working directory to a name by ordinary names alone. -/
structure LeadsTo (path : Text) (names : List Text) (last : Text) : Prop where
  passes : Passes path
  relative : Path.isAbsolute path = false
  closed : [slash].isSuffixOf path = false
  components : Text.solidComponents path = names ++ [last]
  ordinary : ∀ name ∈ names ++ [last], Ordinary name

namespace LeadsTo

variable (h : LeadsTo path names last)

include h

/-- The path is located where something is found, and nowhere else. -/
theorem locate_ok_iff :
    disk.locate path = .ok place ↔
      place = disk.home ++ names ++ [last] ∧
        ∃ node, disk.find? (disk.home ++ names ++ [last]) = some node := by
  have hlocate : disk.locate path = disk.walk disk.home (names ++ [last]) := by
    rw [locate, h.components, start_eq h.relative]
    cases disk.walk disk.home (names ++ [last]) with
    | error refusal => rfl
    | ok found =>
        simp only [bind, Except.bind, h.closed, Bool.false_and, Bool.false_eq_true, if_false]
  rw [hlocate, List.append_assoc]
  constructor
  · exact find?_of_walk h.ordinary (List.concat_ne_nil last names)
  · rintro ⟨rfl, node, hnode⟩
    exact walk_ok h.ordinary hnode

/-- Ordinary names lead to the name from the root as well. -/
theorem ordinary_full : ∀ name ∈ disk.home ++ names ++ [last], Ordinary name := by
  intro name hname
  rw [List.append_assoc] at hname
  exact (List.mem_append.1 hname).elim (disk.home_ordinary name) (h.ordinary name)

theorem treeTarget_ok_iff :
    disk.treeTarget path = .ok place ↔
      place = disk.home ++ names ++ [last] ∧ disk.Stands (disk.home ++ names ++ [last]) := by
  rw [treeTarget]
  constructor
  · intro htarget
    cases hlocate : disk.locate path with
    | error refusal =>
        rw [hlocate] at htarget
        cases htarget
    | ok found =>
        obtain ⟨rfl, node, hnode⟩ := h.locate_ok_iff.1 hlocate
        rw [hlocate] at htarget
        simp only [bind, Except.bind, directoryAt, nodeAt, hnode, Option.getD_some] at htarget
        cases hdirectory : node.isDirectory with
        | false =>
            rw [hdirectory] at htarget
            cases htarget
        | true =>
            rw [hdirectory] at htarget
            cases htarget
            exact ⟨rfl, ⟨node, hnode, hdirectory⟩, h.ordinary_full⟩
  · rintro ⟨rfl, ⟨node, hnode, hdirectory⟩, -⟩
    rw [h.locate_ok_iff.2 ⟨rfl, node, hnode⟩]
    simp only [bind, Except.bind, directoryAt, nodeAt, hnode, Option.getD_some, hdirectory]
    rfl

/-- An empty directory is removed. -/
theorem removeDirectory_eq {mode : Nat} {modified : Int}
    (hnode : disk.find? (disk.home ++ names ++ [last]) = some (.directory mode modified [])) :
    disk.removeDirectory path = .ok (disk.dropEntry ⟨disk.home ++ names, last⟩) := by
  have hstands : disk.Stands (disk.home ++ names) :=
    Stands.above ⟨⟨_, hnode, rfl⟩, h.ordinary_full⟩
  have hlast : Ordinary last := h.ordinary last (List.mem_append_right _ (List.mem_singleton_self _))
  have htarget : disk.emptyDirectory path = .ok ⟨disk.home ++ names, last⟩ := by
    have hentry : disk.entryNode? ⟨disk.home ++ names, last⟩ =
        some (.directory mode modified []) := hnode
    rw [emptyDirectory, locateTarget_named h.relative h.components hstands hlast]
    simp only [bind, Except.bind, hentry]
  rw [removeDirectory, call_ok_iff.2 ⟨h.passes, htarget⟩]
  rfl

/-- A tree is removed as a whole, unless its directories lie too deep inside each other. -/
theorem removeTree_eq {node : Node} (hnode : disk.find? (disk.home ++ names ++ [last]) = some node)
    (hdirectory : node.isDirectory = true) :
    DiskAction.removeTree path disk =
      match node.spare disk.before disk.reach with
      | some rest => .error .stackExhausted (disk.putEntry rest ⟨disk.home ++ names, last⟩)
      | none => .ok () (disk.dropEntry ⟨disk.home ++ names, last⟩) := by
  have htarget : disk.treeTarget path = .ok (disk.home ++ names ++ [last]) :=
    h.treeTarget_ok_iff.2 ⟨rfl, ⟨node, hnode, hdirectory⟩, h.ordinary_full⟩
  rw [DiskAction.removeTree, call_ok_iff.2 ⟨h.passes, htarget⟩]
  simp only [spare, nodeAt, hnode, Option.getD_some, clear]
  cases node.spare disk.before disk.reach with
  | some rest =>
      exact congrArg (EStateM.Result.error _) (update_full (show disk.find?
        (Entry.full ⟨disk.home ++ names, last⟩) = some node from hnode) rest)
  | none =>
      cases node with
      | file content modified => cases hdirectory
      | directory mode modified entries =>
          have hemptied : (disk.update (disk.home ++ names ++ [last]) Node.emptied).find?
              (disk.home ++ names ++ [last]) = some (.directory mode modified []) := by
            have hfound : Node.find? (disk.home ++ names ++ [last]) disk.top =
              some (.directory mode modified entries) := hnode
            rw [find?, update, Node.find?_update, hfound]
            rfl
          have hempty := h.removeDirectory_eq hemptied
          simp only [DiskAction.change, hempty]
          exact congrArg (EStateM.Result.ok ())
            (dropEntry_update ⟨disk.home ++ names, last⟩ Node.emptied)

/-- Where no directory lies, nothing is removed. -/
theorem removeTree_refused
    (hnone : ∀ node, disk.find? (disk.home ++ names ++ [last]) = some node →
      node.isDirectory = false) :
    ∃ refusal, DiskAction.removeTree path disk = .error (.system refusal path) disk := by
  cases htarget : disk.treeTarget path with
  | ok place =>
      obtain ⟨-, ⟨node, hnode, hdirectory⟩, -⟩ := h.treeTarget_ok_iff.1 htarget
      rw [hnone node hnode] at hdirectory
      cases hdirectory
  | error refusal =>
      have hcall : call path (.error refusal : Except Refusal (List Text)) =
          .error (.system refusal path) := by
        have hshort : ¬ pathLimit ≤ Text.byteLength path := by
          have := h.passes.short
          omega
        simp [call, h.passes.noNul, h.passes.nonempty, hshort]
      refine ⟨refusal, ?_⟩
      rw [DiskAction.removeTree, htarget, hcall]

end LeadsTo

end Disk

end ArtifactDepot
