import ArtifactDepot.Disk.Walk
import ArtifactDepot.Path.Plain

/-!
# System calls

What the local backend asks of the system.  A refused call names the path
that it was given.  Reading and writing of files go through the plain form of
a path; all other calls take it as it is.
-/

namespace ArtifactDepot

open Text (slash)

/-- An operation on the disk; what it did before it failed stays done. -/
abbrev DiskAction := EStateM Incident Disk

namespace Disk

/-- Hand a path to the system. -/
def call {α : Type} (path : Text) (result : Except Refusal α) : Except Incident α :=
  if path.contains '\x00' then .error .embeddedNul
  else if path.isEmpty then .error (.system .noEntry path)
  else if pathLimit ≤ Text.byteLength path then .error (.system .nameTooLong path)
  else
    match result with
    | .ok value => .ok value
    | .error refusal => .error (.system refusal path)

/-- Look at what a path names. -/
def stat (disk : Disk) (path : Text) : Except Incident Node :=
  (call path (disk.locate path)).map disk.nodeAt

/-- Does the path name anything? -/
def access (disk : Disk) (path : Text) : Except Incident Bool :=
  match disk.stat path with
  | .ok _ => .ok true
  | .error .embeddedNul => .error .embeddedNul
  | .error _ => .ok false

/-- Does the path name a directory?  A path that cannot be looked at does not. -/
def isDirectory (disk : Disk) (path : Text) : Bool :=
  match disk.stat path with
  | .ok node => node.isDirectory
  | .error _ => false

/-- The node that must be a directory. -/
def directoryAt (disk : Disk) (place : List Text) : Except Refusal Node :=
  let node := disk.nodeAt place
  if node.isDirectory then .ok node else .error .notDirectory

/-- The names in a directory. -/
def list (disk : Disk) (path : Text) : Except Incident Names :=
  call path do return (← disk.directoryAt (← disk.locate path)).names

/-- The content of a file. -/
def read (disk : Disk) (path : Text) : Except Incident ByteArray :=
  let path := Path.plain path
  call path do
    match (disk.nodeAt (← disk.locate path)).content? with
    | some content => .ok content
    | none => .error .isDirectory

/-- A name in the directory at a place. -/
structure Entry where
  place : List Text
  name : Text

/-- The node that has the name of an entry. -/
def entryNode? (disk : Disk) (entry : Entry) : Option Node :=
  disk.find? (entry.place ++ [entry.name])

/-- The disk with a node for an entry. -/
def putEntry (disk : Disk) (node : Node) (entry : Entry) : Disk :=
  disk.update entry.place (Node.withEntry entry.name node)

/-- The disk without an entry and what lies below it. -/
def dropEntry (disk : Disk) (entry : Entry) : Disk :=
  disk.update entry.place (Node.withoutEntry entry.name)

/-- Where a file can be written: at a name that no directory has. -/
def fileTarget (disk : Disk) (path : Text) : Except Refusal Entry := do
  match ← disk.locateTarget path with
  | .named place name =>
      match disk.entryNode? ⟨place, name⟩ with
      | some (.directory ..) => .error .isDirectory
      | _ => .ok ⟨place, name⟩
  | .root | .self | .parent => .error .isDirectory

/-- Write a file, replacing the content of the one that is there. -/
def write (disk : Disk) (path : Text) (content : ByteArray) : Except Incident Disk :=
  let path := Path.plain path
  (call path (disk.fileTarget path)).map (disk.putEntry (.file content 0))

/-- Where a directory can be made: at a name that nothing has. -/
def directoryTarget (disk : Disk) (path : Text) : Except Refusal Entry := do
  match ← disk.locateTarget path with
  | .named place name =>
      match disk.entryNode? ⟨place, name⟩ with
      | some _ => .error .alreadyExists
      | none => .ok ⟨place, name⟩
  | .root | .self | .parent => .error .alreadyExists

/-- Make a directory. -/
def makeDirectory (disk : Disk) (path : Text) (mode : Nat) : Except Incident Disk :=
  (call path (disk.directoryTarget path)).map (disk.putEntry (.directory mode 0 []))

/-- Where an empty directory can be removed. -/
def emptyDirectory (disk : Disk) (path : Text) : Except Refusal Entry := do
  match ← disk.locateTarget path with
  | .named place name =>
      match disk.entryNode? ⟨place, name⟩ with
      | none => .error .noEntry
      | some (.file ..) => .error .notDirectory
      | some (.directory _ _ []) => .ok ⟨place, name⟩
      | some (.directory _ _ (_ :: _)) => .error .notEmpty
  | .root => .error .busy
  | .self => .error .invalidArgument
  | .parent => .error .notEmpty

/-- Remove an empty directory. -/
def removeDirectory (disk : Disk) (path : Text) : Except Incident Disk :=
  (call path (disk.emptyDirectory path)).map disk.dropEntry

/-- Where a directory lies whose content is to be removed. -/
def treeTarget (disk : Disk) (path : Text) : Except Refusal (List Text) := do
  let place ← disk.locate path
  discard (disk.directoryAt place)
  return place

/-- The disk without what lies below a place. -/
def clear (disk : Disk) (place : List Text) : Disk := disk.update place Node.emptied

/-- What is left of the tree at a place when everything in it is removed. -/
def spare (disk : Disk) (place : List Text) : Option Node :=
  (disk.nodeAt place).spare disk.before disk.reach

end Disk

namespace DiskAction

/-- Run a call that may replace the disk. -/
def change (operation : Disk → Except Incident Disk) : DiskAction Unit := fun disk =>
  match operation disk with
  | .ok disk' => .ok () disk'
  | .error incident => .error incident disk

/-- Go on after a refusal because something is already there. -/
def unlessThere (action : DiskAction Unit) : DiskAction Unit := fun disk =>
  match action disk with
  | .error (.system .alreadyExists _) disk' => .ok () disk'
  | result => result

/-- The permission bits of directories that are made on the way. -/
def usualMode : Nat := 0o755

/--
Make a directory and the missing ones above it.  A last component that stands
for the directory itself adds nothing if the one above it had to be made.
-/
def makeDirectories (path : Text) (mode : Nat) : DiskAction Unit := fun disk =>
  let make := change (fun disk => disk.makeDirectory path mode)
  let above := (Path.cutName path).1
  if _named : above ≠ [] ∧ (Path.cutName path).2 ≠ [] then
    match disk.stat above with
    | .ok _ => make disk
    | .error _ =>
        match unlessThere (makeDirectories above usualMode) disk with
        | .error incident disk' => .error incident disk'
        | .ok _ disk' => if (Path.cutName path).2 = selfName then .ok () disk' else make disk'
  else make disk
  termination_by path.length
  decreasing_by exact Path.cutName_length _named.2

/-- Make a directory with the ones above it, unless it is there. -/
def ensureDirectory (path : Text) : DiskAction Unit := fun disk =>
  match makeDirectories path usualMode disk with
  | .error incident disk' => if disk'.isDirectory path then .ok () disk' else .error incident disk'
  | result => result

/--
Remove a directory with everything in it: first the content, then the directory.  The first
directory that lies too deep inside the others exhausts the stack, and what has not been
removed until then stays.
-/
def removeTree (path : Text) : DiskAction Unit := fun disk =>
  match Disk.call path (disk.treeTarget path) with
  | .error incident => .error incident disk
  | .ok place =>
      match disk.spare place with
      | some rest => .error .stackExhausted (disk.update place fun _ => rest)
      | none => change (fun disk => disk.removeDirectory path) (disk.clear place)

end DiskAction

end ArtifactDepot
