import ArtifactDepot.Backend.Operations

/-!
# Replicas

A local directory stands for a source directory of any kind.  A local source
is used in place.  A remote one is copied into a temporary directory, its
replica, which the local directory owns and deletes when it is released.
-/

namespace ArtifactDepot

open ArtifactDepot.Action

/-- A local path for a source directory. -/
structure LocalDirectory where
  serial : Nat
  source : Text
  path : Text
  /-- Is the local path a replica that is deleted on release? -/
  owned : Bool
  deriving DecidableEq, Repr

namespace LocalDirectory

/-- How a local directory is shown. -/
def describe (directory : LocalDirectory) : String :=
  "LocalizedDirectory(original_path=" ++ (Text.quoted directory.source).string ++ ", path=" ++
    (Text.quoted directory.path).string ++ ", owns_local=" ++
    (if directory.owned then "True" else "False") ++ ")"

/-- A local directory with a replica, or with the source in place of one. -/
def create (source : Text) (replica : Option Text) : Action LocalDirectory := do
  let serial ← freshSerial
  return ⟨serial, source, replica.getD source, replica.isSome⟩

/-- Has its replica been given up? -/
def isReleased (directory : LocalDirectory) (site : Site) : Bool :=
  directory.owned && site.serials.released.contains directory.serial

/-- Delete a replica.  One that is gone is fine; other refusals of the system are logged. -/
def deleteReplica (path : Text) : Action Unit :=
  recover (onDisk (DiskAction.removeTree path)) fun failure =>
    match failure with
    | .incident (.system .noEntry _) => pure ()
    | .incident (.system refusal name) =>
        note .warning
          ("Failed to delete localized directory " ++ path.string ++ ": " ++
            (Incident.system refusal name).message)
    | other => throw other

/-- Give up the replica.  Only the first release of an owned one does anything. -/
def release (directory : LocalDirectory) : Action Unit := do
  if !directory.owned || (← get).serials.released.contains directory.serial then return
  modify fun site => { site with serials := site.serials.release directory.serial }
  deleteReplica directory.path

end LocalDirectory

namespace Replica

/-- The place in the replica of an entry below the source. -/
def target (source replica entry : Text) : Action Text :=
  match Path.relative? entry source with
  | some relative => return Path.join [replica, relative]
  | none => meet (.notUnder entry source)

/-- The entries in a directory. -/
def entriesOf (kind : Kind) (directory : Text) : Action Names := do
  return Names.ofList ((← Backend.contents kind directory).toList.map
    (fun name => Path.join [directory, name]))

/-- Copy one entry, and give the entries in it if it is a directory. -/
def visit (kind : Kind) (source replica entry : Text) : Action Names := do
  let place ← target source replica entry
  if ← Backend.isDirectory kind entry then
    Local.makeDirectory place false
    entriesOf kind entry
  else
    Local.writeBytes place (← Backend.readBytes kind entry)
    return .empty

/-- Copy the entries of one level in code-point order, and give those of the next. -/
def level (kind : Kind) (source replica : Text) (entries : Names) : Action Names :=
  entries.toList.foldlM
    (fun below entry => return (← visit kind source replica entry).union below) .empty

/--
Copy level after level.  Every level lies one directory deeper than the one
before, so the bound on the length of paths bounds their number.
-/
def levels (kind : Kind) (source replica : Text) : Nat → Names → Action Unit
  | 0, _ => meet (.system .nameTooLong replica)
  | bound + 1, entries =>
      if entries.toList.isEmpty then pure ()
      else do levels kind source replica bound (← level kind source replica entries)

/-- Copy everything below the source. -/
def copy (kind : Kind) (source replica : Text) : Action Unit := do
  levels kind source replica Disk.pathLimit (← entriesOf kind source)

/-- Copy the directory at a path into a new temporary one.  A copy that fails is deleted again. -/
def make (kind : Kind) (path : Text) : Action LocalDirectory := do
  let source ← ofRule (Backend.normalize kind path)
  if !(← Backend.isPresent kind source) then raise (.missing .directoryToLocalize source none)
  if !(← Backend.isDirectory kind source) then raise (.missing .directoryToLocalize source none)
  let directory ← LocalDirectory.create source (some (← Local.makeTemporary))
  recover (copy kind source directory.path) fun failure => do
    directory.release
    throw failure
  return directory

end Replica

namespace Backend

/-- Use a local directory in place. -/
def localizeLocal (path : Text) : Action LocalDirectory := do
  if !(← Local.isPresent path) then raise (.missing .directoryToLocalize path none)
  if !(← Local.isDirectory path) then raise (.missing .directoryToLocalize path none)
  LocalDirectory.create path none

/-- A local path that holds the content of the directory at a path. -/
def localize (kind : Kind) (path : Text) : Action LocalDirectory :=
  Trace.traced .localize kind path <|
    match kind with
    | .disk => localizeLocal path
    | _ => Replica.make kind path

end Backend

end ArtifactDepot
