import ArtifactDepot.Disk.Upkeep

/-!
# The disk does not look into files

The calls of the disk move the contents of files about and never look into
them.  So a disk whose contents are replaced, each by what a function makes of
it, answers every call as before: with the same places, names and refusals,
and with contents that are replaced in the same way (`Disk.map`).
-/

namespace ArtifactDepot

open Text (slash)

namespace Node

variable {f : ByteArray → ByteArray}

mutual

/-- The node with every content replaced. -/
def map (f : ByteArray → ByteArray) : Node → Node
  | .file content modified => .file (f content) modified
  | .directory mode modified entries => .directory mode modified (mapEntries f entries)

/-- The entries with every content replaced. -/
def mapEntries (f : ByteArray → ByteArray) : List (Text × Node) → List (Text × Node)
  | [] => []
  | (name, node) :: others => (name, map f node) :: mapEntries f others

end

/-! ## What is seen of a node -/

@[simp] theorem isDirectory_map (node : Node) : (node.map f).isDirectory = node.isDirectory := by
  cases node with
  | file content modified => rfl
  | directory mode modified entries => rfl

@[simp] theorem mode_map (node : Node) : (node.map f).mode = node.mode := by
  cases node with
  | file content modified => rfl
  | directory mode modified entries => rfl

@[simp] theorem modified_map (node : Node) : (node.map f).modified = node.modified := by
  cases node with
  | file content modified => rfl
  | directory mode modified entries => rfl

@[simp] theorem content?_map (node : Node) : (node.map f).content? = node.content?.map f := by
  cases node with
  | file content modified => rfl
  | directory mode modified entries => rfl

@[simp] theorem entries_map (node : Node) : (node.map f).entries = mapEntries f node.entries := by
  cases node with
  | file content modified => rfl
  | directory mode modified entries => rfl

theorem keys_mapEntries (entries : List (Text × Node)) :
    (mapEntries f entries).map Prod.fst = entries.map Prod.fst := by
  induction entries with
  | nil => rfl
  | cons first others ih => simp [mapEntries, ih]

@[simp] theorem names_map (node : Node) : (node.map f).names = node.names := by
  rw [names, names, entries_map, keys_mapEntries]

theorem lookup_mapEntries (name : Text) (entries : List (Text × Node)) :
    (mapEntries f entries).lookup name = (entries.lookup name).map (map f) := by
  induction entries with
  | nil => rfl
  | cons first others ih =>
      obtain ⟨key, node⟩ := first
      simp only [mapEntries, List.lookup_cons, ih]
      cases name == key with
      | true => rfl
      | false => rfl

mutual

/-- Nothing is replaced if every content is replaced by itself. -/
theorem map_id : (node : Node) → node.map id = node
  | .file content modified => rfl
  | .directory mode modified entries => by rw [map, mapEntries_id entries]

theorem mapEntries_id : (entries : List (Text × Node)) → mapEntries id entries = entries
  | [] => rfl
  | (name, node) :: others => by rw [mapEntries, map_id node, mapEntries_id others]

end

theorem mapEntries_eq_map (entries : List (Text × Node)) :
    mapEntries f entries = entries.map (fun entry => (entry.1, entry.2.map f)) := by
  induction entries with
  | nil => rfl
  | cons first others ih => rw [mapEntries, ih, List.map_cons]

/-- Entries are listed by their names. -/
theorem mergeSort_mapEntries (before : Text → Text → Bool) (entries : List (Text × Node)) :
    (mapEntries f entries).mergeSort (fun left right => before left.1 right.1) =
      mapEntries f (entries.mergeSort fun left right => before left.1 right.1) := by
  have hsort : (entries.mergeSort fun left right => before left.1 right.1).map
      (fun entry => (entry.1, entry.2.map f)) =
        (entries.map (fun entry => (entry.1, entry.2.map f))).mergeSort
          fun left right => before left.1 right.1 :=
    List.map_mergeSort fun _ _ _ _ => rfl
  rw [mapEntries_eq_map, mapEntries_eq_map, hsort]

theorem spareOf_mapEntries {keep : Node → Option Node}
    (hkeep : ∀ node, keep (node.map f) = (keep node).map (map f)) (entries : List (Text × Node)) :
    spareOf keep (mapEntries f entries) = (spareOf keep entries).map (mapEntries f) := by
  induction entries with
  | nil => rfl
  | cons first others ih =>
      obtain ⟨name, node⟩ := first
      simp only [mapEntries, spareOf, hkeep]
      cases keep node with
      | some rest => rfl
      | none => exact ih

/-- What is left of a tree is left of it whatever its files contain. -/
theorem spare_map (before : Text → Text → Bool) (reach : Nat) (node : Node) :
    (node.map f).spare before reach = (node.spare before reach).map (map f) := by
  induction reach generalizing node with
  | zero =>
      cases node with
      | file content modified => rfl
      | directory mode modified entries => cases entries <;> rfl
  | succ reach ih =>
      cases node with
      | file content modified => rfl
      | directory mode modified entries =>
          rw [map, spare, spare, mergeSort_mapEntries, spareOf_mapEntries ih, Option.map_map,
            Option.map_map]
          rfl

mutual

theorem inventory_map : (node : Node) →
    (node.map f).inventory = node.inventory.map (fun found => (found.1, found.2.map f))
  | .file content modified => rfl
  | .directory mode modified entries => by
      rw [map, inventory, inventory, inventoryOf_mapEntries entries]

theorem inventoryOf_mapEntries : (entries : List (Text × Node)) →
    inventoryOf (mapEntries f entries) =
      (inventoryOf entries).map (fun found => (found.1, found.2.map f))
  | [] => rfl
  | (name, node) :: others => by
      rw [mapEntries, inventoryOf, inventoryOf, inventory_map node, inventoryOf_mapEntries others]
      simp

end

/-! ## Changes of a node -/

theorem put_mapEntries (name : Text) (node : Node) (entries : List (Text × Node)) :
    mapEntries f (Entries.put name node entries) =
      Entries.put name (node.map f) (mapEntries f entries) := by
  induction entries with
  | nil => rfl
  | cons first others ih =>
      simp only [Entries.put, mapEntries]
      split
      · rfl
      · rw [← ih]
        rfl

theorem drop_mapEntries (name : Text) (entries : List (Text × Node)) :
    mapEntries f (Entries.drop name entries) = Entries.drop name (mapEntries f entries) := by
  induction entries with
  | nil => rfl
  | cons first others ih =>
      simp only [Entries.drop, List.filter_cons, mapEntries] at ih ⊢
      split
      · rw [mapEntries, ih]
      · exact ih

theorem map_withEntry (name : Text) (new node : Node) :
    (withEntry name new node).map f = withEntry name (new.map f) (node.map f) := by
  cases node with
  | file content modified => rfl
  | directory mode modified entries => simp only [withEntry, map, put_mapEntries]

theorem map_withoutEntry (name : Text) (node : Node) :
    (withoutEntry name node).map f = withoutEntry name (node.map f) := by
  cases node with
  | file content modified => rfl
  | directory mode modified entries => simp only [withoutEntry, map, drop_mapEntries]

theorem map_emptied (node : Node) : node.emptied.map f = (node.map f).emptied := by
  cases node with
  | file content modified => rfl
  | directory mode modified entries => rfl

theorem map_touched (modified : Int) (node : Node) :
    (touched modified node).map f = touched modified (node.map f) := by
  cases node with
  | file content before => rfl
  | directory mode before entries => rfl

/-! ## Places -/

theorem find?_map (place : List Text) (node : Node) :
    find? place (node.map f) = (find? place node).map (map f) := by
  induction place generalizing node with
  | nil => rfl
  | cons name place ih =>
      simp only [find?, entries_map, lookup_mapEntries]
      cases node.entries.lookup name with
      | none => rfl
      | some child => exact ih child

/-- A change that comes to the same before and after contents are replaced does so at any place. -/
theorem map_update {change change' : Node → Node}
    (h : ∀ node, (change node).map f = change' (node.map f))
    (place : List Text) (node : Node) :
    (update place change node).map f = update place change' (node.map f) := by
  induction place generalizing node with
  | nil => exact h node
  | cons name place ih =>
      simp only [update, entries_map, lookup_mapEntries]
      cases node.entries.lookup name with
      | none => rfl
      | some child =>
          simp only [Option.map_some]
          rw [map_withEntry, ih child]

end Node

namespace Disk

/-- The disk with every content replaced. -/
def map (f : ByteArray → ByteArray) (disk : Disk) : Disk := { disk with top := disk.top.map f }

variable {f : ByteArray → ByteArray} (disk : Disk)

theorem map_id : disk.map id = disk := by rw [map, Node.map_id]

theorem find?_map (place : List Text) :
    (disk.map f).find? place = (disk.find? place).map (Node.map f) :=
  Node.find?_map place disk.top

theorem map_update {change change' : Node → Node}
    (h : ∀ node, (change node).map f = change' (node.map f))
    (place : List Text) : (disk.update place change).map f = (disk.map f).update place change' :=
  congrArg (fun top => { disk with top }) (Node.map_update h place disk.top)

/-! ## Walking -/

theorem isDirectoryAt_map (place : List Text) :
    (disk.map f).isDirectoryAt place = disk.isDirectoryAt place := by
  simp only [isDirectoryAt, find?_map]
  cases disk.find? place with
  | none => rfl
  | some node => simp

theorem obstacle_map (place : List Text) : (disk.map f).obstacle place = disk.obstacle place := by
  simp only [obstacle, find?_map]
  cases disk.find? place with
  | none => rfl
  | some node => rfl

theorem start_map (path : Text) : (disk.map f).start path = disk.start path := rfl

theorem follow_map : (disk.map f).follow = disk.follow := by
  funext place name
  have henter : (disk.map f).enter place name = disk.enter place name := by
    simp only [enter, find?_map]
    cases disk.find? (place ++ [name]) with
    | none => rfl
    | some node => rfl
  rw [follow, follow, isDirectoryAt_map, obstacle_map, henter]

theorem locate_map (path : Text) : (disk.map f).locate path = disk.locate path := by
  simp only [locate, walk, start_map, follow_map, isDirectoryAt_map, obstacle_map]

theorem locateTarget_map (path : Text) :
    (disk.map f).locateTarget path = disk.locateTarget path := by
  simp only [locateTarget, walk, start_map, follow_map, isDirectoryAt_map, obstacle_map]

theorem nodeAt_map (place : List Text) :
    (disk.map f).nodeAt place = (disk.nodeAt place).map f := by
  simp only [nodeAt, find?_map]
  cases disk.find? place with
  | none => rfl
  | some node => rfl

/-! ## Questions -/

theorem call_map {α β : Type} (path : Text) (result : Except Refusal α) (g : α → β) :
    call path (result.map g) = (call path result).map g := by
  simp only [call]
  split
  · rfl
  · split
    · rfl
    · split
      · rfl
      · cases result with
        | ok value => rfl
        | error refusal => rfl

theorem stat_map (path : Text) : (disk.map f).stat path = (disk.stat path).map (Node.map f) := by
  rw [stat, stat, locate_map]
  cases call path (disk.locate path) with
  | error incident => rfl
  | ok position => exact congrArg Except.ok (nodeAt_map disk position)

theorem access_map (path : Text) : (disk.map f).access path = disk.access path := by
  rw [access, access, stat_map]
  cases disk.stat path with
  | ok node => rfl
  | error incident =>
      cases incident <;> rfl

theorem isDirectory_map (path : Text) : (disk.map f).isDirectory path = disk.isDirectory path := by
  rw [isDirectory, isDirectory, stat_map]
  cases disk.stat path with
  | ok node => exact Node.isDirectory_map node
  | error incident => rfl

theorem directoryAt_map (place : List Text) :
    (disk.map f).directoryAt place = (disk.directoryAt place).map (Node.map f) := by
  simp only [directoryAt, nodeAt_map, Node.isDirectory_map]
  split
  · rfl
  · rfl

theorem list_map (path : Text) : (disk.map f).list path = disk.list path := by
  rw [list, list, locate_map]
  cases disk.locate path with
  | error refusal => rfl
  | ok position =>
      simp only [bind, Except.bind, directoryAt_map]
      cases disk.directoryAt position with
      | error refusal => rfl
      | ok node => simp only [Except.map, Node.names_map]

/-- Only what is read from a file shows that contents were replaced. -/
theorem read_map (path : Text) : (disk.map f).read path = (disk.read path).map f := by
  simp only [read, ← call_map, locate_map]
  cases disk.locate (Path.plain path) with
  | error refusal => rfl
  | ok position =>
      simp only [bind, Except.bind, nodeAt_map, Node.content?_map]
      cases (disk.nodeAt position).content? with
      | none => rfl
      | some content => rfl

/-! ## Changes -/

theorem entryNode?_map (entry : Entry) :
    (disk.map f).entryNode? entry = (disk.entryNode? entry).map (Node.map f) := find?_map disk _

theorem map_putEntry (node : Node) (entry : Entry) :
    (disk.putEntry node entry).map f = (disk.map f).putEntry (node.map f) entry :=
  map_update disk (Node.map_withEntry entry.name node) entry.place

theorem map_dropEntry (entry : Entry) :
    (disk.dropEntry entry).map f = (disk.map f).dropEntry entry :=
  map_update disk (Node.map_withoutEntry entry.name) entry.place

theorem map_clear (place : List Text) : (disk.clear place).map f = (disk.map f).clear place :=
  map_update disk Node.map_emptied place

theorem spare_map (place : List Text) :
    (disk.map f).spare place = (disk.spare place).map (Node.map f) := by
  rw [spare, nodeAt_map]
  exact Node.spare_map disk.before disk.reach _

theorem fileTarget_map (path : Text) : (disk.map f).fileTarget path = disk.fileTarget path := by
  rw [fileTarget, fileTarget, locateTarget_map]
  cases disk.locateTarget path with
  | error refusal => rfl
  | ok target =>
      cases target with
      | named place name =>
          simp only [bind, Except.bind, entryNode?_map]
          cases disk.entryNode? ⟨place, name⟩ with
          | none => rfl
          | some node => cases node <;> rfl
      | root => rfl
      | self => rfl
      | parent => rfl

theorem directoryTarget_map (path : Text) :
    (disk.map f).directoryTarget path = disk.directoryTarget path := by
  rw [directoryTarget, directoryTarget, locateTarget_map]
  cases disk.locateTarget path with
  | error refusal => rfl
  | ok target =>
      cases target with
      | named place name =>
          simp only [bind, Except.bind, entryNode?_map]
          cases disk.entryNode? ⟨place, name⟩ with
          | none => rfl
          | some node => rfl
      | root => rfl
      | self => rfl
      | parent => rfl

theorem emptyDirectory_map (path : Text) :
    (disk.map f).emptyDirectory path = disk.emptyDirectory path := by
  rw [emptyDirectory, emptyDirectory, locateTarget_map]
  cases disk.locateTarget path with
  | error refusal => rfl
  | ok target =>
      cases target with
      | named place name =>
          simp only [bind, Except.bind, entryNode?_map]
          cases disk.entryNode? ⟨place, name⟩ with
          | none => rfl
          | some node =>
              cases node with
              | file content modified => rfl
              | directory mode modified entries => cases entries <;> rfl
      | root => rfl
      | self => rfl
      | parent => rfl

theorem treeTarget_map (path : Text) : (disk.map f).treeTarget path = disk.treeTarget path := by
  rw [treeTarget, treeTarget, locate_map]
  cases disk.locate path with
  | error refusal => rfl
  | ok position =>
      simp only [bind, Except.bind, directoryAt_map]
      cases disk.directoryAt position with
      | error refusal => rfl
      | ok node => rfl

theorem write_map (path : Text) (content : ByteArray) :
    (disk.map f).write path (f content) = (disk.write path content).map (Disk.map f) := by
  simp only [write, fileTarget_map]
  cases call (Path.plain path) (disk.fileTarget (Path.plain path)) with
  | error incident => rfl
  | ok entry => exact congrArg Except.ok (map_putEntry disk (.file content 0) entry).symm

theorem makeDirectory_map (path : Text) (mode : Nat) :
    (disk.map f).makeDirectory path mode = (disk.makeDirectory path mode).map (Disk.map f) := by
  simp only [makeDirectory, directoryTarget_map]
  cases call path (disk.directoryTarget path) with
  | error incident => rfl
  | ok entry => exact congrArg Except.ok (map_putEntry disk (.directory mode 0 []) entry).symm

theorem removeDirectory_map (path : Text) :
    (disk.map f).removeDirectory path = (disk.removeDirectory path).map (Disk.map f) := by
  simp only [removeDirectory, emptyDirectory_map]
  cases call path (disk.emptyDirectory path) with
  | error incident => rfl
  | ok entry => exact congrArg Except.ok (map_dropEntry disk entry).symm

end Disk

/-! ## Operations -/

namespace DiskAction

variable {f : ByteArray → ByteArray}

/-- The end of a run, with every content on its disk replaced. -/
def mapResult (f : ByteArray → ByteArray) :
    EStateM.Result Incident Disk Unit → EStateM.Result Incident Disk Unit
  | .ok value disk => .ok value (disk.map f)
  | .error incident disk => .error incident (disk.map f)

/-- The second operation is the first one, seen with contents replaced. -/
def Mapped (f : ByteArray → ByteArray) (operation operation' : DiskAction Unit) : Prop :=
  ∀ disk, operation' (disk.map f) = mapResult f (operation disk)

theorem mapped_change {operation operation' : Disk → Except Incident Disk}
    (h : ∀ disk, operation' (disk.map f) = (operation disk).map (Disk.map f)) :
    Mapped f (change operation) (change operation') := by
  intro disk
  rw [change, change, h disk]
  cases operation disk with
  | ok next => rfl
  | error incident => rfl

theorem mapped_write (path : Text) (content : ByteArray) :
    Mapped f (change (fun disk => disk.write path content))
      (change (fun disk => disk.write path (f content))) :=
  mapped_change fun disk => disk.write_map path content

theorem mapped_makeDirectory (path : Text) (mode : Nat) :
    Mapped f (change (fun disk => disk.makeDirectory path mode))
      (change (fun disk => disk.makeDirectory path mode)) :=
  mapped_change fun disk => disk.makeDirectory_map path mode

theorem mapped_unlessThere {action : DiskAction Unit} (h : Mapped f action action) :
    Mapped f (unlessThere action) (unlessThere action) := by
  intro disk
  rw [unlessThere, unlessThere, h disk]
  cases action disk with
  | ok value next => rfl
  | error incident next =>
      cases incident with
      | system refusal name => cases refusal <;> rfl
      | _ => rfl

theorem mapped_makeDirectories (path : Text) (mode : Nat) :
    Mapped f (makeDirectories path mode) (makeDirectories path mode) := by
  intro disk
  rw [makeDirectories.eq_1 path mode disk, makeDirectories.eq_1 path mode (disk.map f)]
  by_cases hnamed : (Path.cutName path).1 ≠ [] ∧ (Path.cutName path).2 ≠ []
  · have hmake := mapped_makeDirectory (f := f) path mode
    have habove := mapped_unlessThere
      (mapped_makeDirectories (Path.cutName path).1 usualMode) disk
    simp only [dif_pos hnamed, Disk.stat_map]
    cases disk.stat (Path.cutName path).1 with
    | ok node => exact hmake disk
    | error incident =>
        simp only [Except.map, habove]
        cases unlessThere (makeDirectories (Path.cutName path).1 usualMode) disk with
        | error incident next => rfl
        | ok value next =>
            by_cases hself : (Path.cutName path).2 = selfName
            · simp only [mapResult, if_pos hself]
            · simp only [mapResult, if_neg hself]
              exact hmake next
  · simp only [dif_neg hnamed]
    exact mapped_makeDirectory path mode disk
  termination_by path.length
  decreasing_by exact Path.cutName_length hnamed.2

theorem mapped_ensureDirectory (path : Text) :
    Mapped f (ensureDirectory path) (ensureDirectory path) := by
  intro disk
  rw [ensureDirectory, ensureDirectory, mapped_makeDirectories path usualMode disk]
  cases makeDirectories path usualMode disk with
  | ok value next => rfl
  | error incident next =>
      simp only [mapResult, Disk.isDirectory_map]
      split
      · rfl
      · rfl

theorem mapped_removeTree (path : Text) : Mapped f (removeTree path) (removeTree path) := by
  intro disk
  rw [removeTree, removeTree, Disk.treeTarget_map]
  cases Disk.call path (disk.treeTarget path) with
  | error incident => rfl
  | ok place =>
      simp only [Disk.spare_map, ← Disk.map_clear]
      cases disk.spare place with
      | some rest =>
          have hrest : (disk.update place fun _ => rest).map f =
              (disk.map f).update place fun _ => rest.map f := by
            apply Disk.map_update
            exact fun _ => rfl
          exact congrArg (EStateM.Result.error _) hrest.symm
      | none => exact mapped_change (fun disk => disk.removeDirectory_map path) _

end DiskAction

/-! ## Looking at the whole disk -/

namespace Upkeep

variable {f : ByteArray → ByteArray} (path : Text) (disk : Disk)

theorem place?_map : place? path (disk.map f) = place? path disk := by
  rw [place?, place?, Disk.locate_map]

/-- The disk after what a path names was touched. -/
def touched (nanosecond : Int) : Disk :=
  match place? path disk with
  | some place => disk.update place (Node.touched nanosecond)
  | none => disk

theorem touched_map (nanosecond : Int) :
    touched path (disk.map f) nanosecond = (touched path disk nanosecond).map f := by
  rw [touched, touched, place?_map]
  cases place? path disk with
  | none => rfl
  | some place => exact (disk.map_update (Node.map_touched nanosecond) place).symm

/-- The disk without what a path names, unless the working directory is there or lies in it. -/
def removed : Disk :=
  match place? path disk with
  | none => disk
  | some place =>
      match place.getLast? with
      | none => disk
      | some name =>
          if place.isPrefixOf disk.home then disk else disk.dropEntry ⟨place.dropLast, name⟩

theorem removed_map : removed path (disk.map f) = (removed path disk).map f := by
  rw [removed, removed, place?_map]
  cases place? path disk with
  | none => rfl
  | some place =>
      dsimp only
      cases place.getLast? with
      | none => rfl
      | some name =>
          have hhome : (disk.map f).home = disk.home := rfl
          dsimp only
          rw [hhome]
          split
          · rfl
          · exact (disk.map_dropEntry ⟨place.dropLast, name⟩).symm

/-- The paths below a directory are the same, each with its content replaced. -/
theorem treeOf_map :
    treeOf path (disk.map f) =
      (treeOf path disk).map (List.map (fun row => (row.1, row.2.map f))) := by
  have hfound : (place? path (disk.map f)).bind (disk.map f).find? =
      ((place? path disk).bind disk.find?).map (Node.map f) := by
    rw [place?_map]
    cases place? path disk with
    | none => rfl
    | some place => exact disk.find?_map place
  simp only [treeOf, hfound]
  cases (place? path disk).bind disk.find? with
  | none => rfl
  | some node =>
      cases node with
      | file content modified => rfl
      | directory mode modified entries =>
          have hrows := Node.inventory_map (f := f) (.directory mode modified entries)
          simp only [Node.map] at hrows
          simp only [Option.map_some, Node.map, hrows, List.map_map]
          congr 1
          have hsort (rows : List (Text × Option ByteArray)) :
              (rows.mergeSort (fun left right => Text.atMost left.1 right.1)).map
                  (fun row => (row.1, row.2.map f)) =
                (rows.map (fun row => (row.1, row.2.map f))).mergeSort
                  (fun left right => Text.atMost left.1 right.1) :=
            List.map_mergeSort fun _ _ _ _ => rfl
          rw [hsort, List.map_map]
          simp [Function.comp_def]

end Upkeep

end ArtifactDepot
