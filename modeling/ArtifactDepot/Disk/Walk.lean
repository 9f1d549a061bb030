import ArtifactDepot.Disk.Node
import ArtifactDepot.Failure.Incident
import ArtifactDepot.Path.Plain

/-!
# Walking a path

How the system finds the place that a path names.  The components are
followed one after the other, from the root if the path is absolute and from
the working directory if it is not; each must be left from a directory.  The
directory that the root lies in is the root itself.
-/

namespace ArtifactDepot

open Text (slash)

namespace Disk

/-- The most bytes of a component. -/
def nameLimit : Nat := 255

/-- A path has fewer bytes than this. -/
def pathLimit : Nat := 4096

/-- A name that stands for nothing else and that the system accepts as one component. -/
structure Ordinary (name : Text) : Prop where
  solid : name ≠ [] ∧ slash ∉ name
  ne_self : name ≠ selfName
  ne_parent : name ≠ parentName
  short : Text.byteLength name ≤ nameLimit

instance (name : Text) : Decidable (Ordinary name) :=
  decidable_of_iff ((name ≠ [] ∧ slash ∉ name) ∧ name ≠ selfName ∧ name ≠ parentName ∧
      Text.byteLength name ≤ nameLimit)
    ⟨fun ⟨hsolid, hself, hparent, hshort⟩ => ⟨hsolid, hself, hparent, hshort⟩,
      fun h => ⟨h.solid, h.ne_self, h.ne_parent, h.short⟩⟩

/-- No name leads to the root. -/
theorem root_ordinary : ∀ name ∈ ([] : List Text), Ordinary name :=
  fun _ h => absurd h List.not_mem_nil

end Disk

/-- The local disk: all that lies below its root, and what the system makes of it. -/
structure Disk where
  top : Node
  /-- The place of the working directory. -/
  home : List Text := []
  home_ordinary : ∀ name ∈ home, Disk.Ordinary name := by exact Disk.root_ordinary
  /-- How many directories inside each other a removal can go down. -/
  reach : Nat := 980
  /-- Is the first name listed before the second one?  Names of one rank are listed as made. -/
  before : Text → Text → Bool := fun _ _ => true

namespace Disk

/-- The place of the working directory on a fresh disk. -/
def workPlace : List Text := ["work".toList]

/-- A working directory that holds nothing but an empty directory for temporary ones. -/
def fresh : Disk where
  top := .directory 0o755 0
    [("work".toList, .directory 0o755 0 [("scratch".toList, .directory 0o755 0 [])])]
  home := workPlace
  home_ordinary := by decide

/-- The node at a place. -/
def find? (disk : Disk) (place : List Text) : Option Node := Node.find? place disk.top

/-- Replace the node at a place. -/
def update (disk : Disk) (place : List Text) (change : Node → Node) : Disk :=
  { disk with top := Node.update place change disk.top }

/-- Where a path starts. -/
def start (disk : Disk) (path : Text) : List Text :=
  if [slash].isPrefixOf path then [] else disk.home

/-- Can a walk go on from here? -/
def isDirectoryAt (disk : Disk) (place : List Text) : Bool :=
  ((disk.find? place).map Node.isDirectory).getD false

/-- What the system says of a place that is no directory: there is something else, or nothing. -/
def obstacle (disk : Disk) (place : List Text) : Refusal :=
  match disk.find? place with
  | some _ => .notDirectory
  | none => .noEntry

/-- Look a name up in a directory. -/
def enter (disk : Disk) (place : List Text) (name : Text) : Except Refusal (List Text) :=
  if nameLimit < Text.byteLength name then .error .nameTooLong
  else
    match disk.find? (place ++ [name]) with
    | some _ => .ok (place ++ [name])
    | none => .error .noEntry

/-- Follow one component. -/
def follow (disk : Disk) (place : List Text) (name : Text) : Except Refusal (List Text) :=
  if !disk.isDirectoryAt place then .error (disk.obstacle place)
  else if name = selfName then .ok place
  else if name = parentName then .ok place.dropLast
  else disk.enter place name

/-- Follow components one after the other. -/
def walk (disk : Disk) (place : List Text) (names : List Text) : Except Refusal (List Text) :=
  names.foldlM disk.follow place

/-- The place that a path names.  A path that ends in a slash names a directory. -/
def locate (disk : Disk) (path : Text) : Except Refusal (List Text) := do
  let place ← disk.walk (disk.start path) (Text.solidComponents path)
  if [slash].isSuffixOf path && !disk.isDirectoryAt place then .error (disk.obstacle place)
  else .ok place

/-- How the last component of a path is to be taken. -/
inductive Target where
  /-- The path is made of slashes alone. -/
  | root
  | self
  | parent
  /-- A name in the directory at a place. -/
  | named (place : List Text) (name : Text)

/-- Follow all components but the last one. -/
def locateTarget (disk : Disk) (path : Text) : Except Refusal Target :=
  let names := Text.solidComponents path
  match names.getLast? with
  | none => .ok .root
  | some last => do
      let place ← disk.walk (disk.start path) names.dropLast
      if !disk.isDirectoryAt place then .error (disk.obstacle place)
      else if last = selfName then .ok .self
      else if last = parentName then .ok .parent
      else if nameLimit < Text.byteLength last then .error .nameTooLong
      else .ok (.named place last)

/-- The node at a place; where there is none, an empty directory. -/
def nodeAt (disk : Disk) (place : List Text) : Node :=
  (disk.find? place).getD (.directory 0o755 0 [])

end Disk

end ArtifactDepot
