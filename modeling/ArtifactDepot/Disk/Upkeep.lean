import ArtifactDepot.Action

/-!
# Upkeep of the disk

What the surroundings of the depot may do to the local disk between two of
its operations: write and remove files, set times, and look at what is there.
-/

namespace ArtifactDepot.Upkeep

/-- The place of the local disk that a path names, if it names one. -/
def place? (path : Text) (disk : Disk) : Option (List Text) :=
  match Disk.call path (disk.locate path) with
  | .ok place => some place
  | _ => none

/-- The node at a path. -/
def nodeAt (path : Text) : Action Node := Action.consult (·.stat path)

/-- Set the nanosecond of the last change. -/
def touch (path : Text) (nanosecond : Int) : Action Unit := do
  discard (nodeAt path)
  modify fun site =>
    match place? path site.disk with
    | some place => { site with disk := site.disk.update place (Node.touched nanosecond) }
    | none => site

/-- Make a directory and the ones above it, unless it is there. -/
def ensureDirectory (path : Text) : Action Unit :=
  Action.onDisk (DiskAction.ensureDirectory path)

/-- Write a file and make the directories above it. -/
def writeFile (path : Text) (content : ByteArray) : Action Unit := do
  let above := (Path.cutLast path).1
  if !above.isEmpty then ensureDirectory above
  Action.onDisk (DiskAction.change (fun disk => disk.write path content))

/-- Remove what a path names, unless the working directory is there or lies in it. -/
def remove (path : Text) : Action Unit :=
  modify fun site =>
    match place? path site.disk with
    | none => site
    | some place =>
        match place.getLast? with
        | none => site
        | some name =>
            if place.isPrefixOf site.disk.home then site
            else { site with disk := site.disk.dropEntry ⟨place.dropLast, name⟩ }

/-- Everything below a directory by its path as seen from there, in code-point order. -/
def treeOf (path : Text) (disk : Disk) : Option (List (Text × Option ByteArray)) :=
  match (place? path disk).bind disk.find? with
  | some (.directory mode modified entries) =>
      let rows := (Node.directory mode modified entries).inventory.map
        (fun found => (Text.join found.1, found.2.content?))
      some (rows.mergeSort (fun left right => Text.atMost left.1 right.1))
  | _ => none

end ArtifactDepot.Upkeep
