import ArtifactDepot.Trace.Setup

/-!
# The local backend

The operations on the local disk.  A refusal of the system becomes a fault
that names the path; a path that the system cannot be given at all is an
incident that passes through.
-/

namespace ArtifactDepot.Local

open ArtifactDepot.Action

/-- Refusals of the system become faults; other failures pass unchanged. -/
def refused {α : Type} (wrap : Incident → Fault) (action : Action α) : Action α :=
  recover action fun failure =>
    match failure with
    | .incident (.system refusal name) => raise (wrap (.system refusal name))
    | other => throw other

/-- What a failed task says when a file was looked for in vain. -/
def orMissing (what : Quarry) (task : Task) (path : Text) (incident : Incident) : Fault :=
  match incident with
  | .system .noEntry _ => .missing what path (some incident)
  | _ => .failed task path incident

/-- Does the path name anything? -/
def isPresent (path : Text) : Action Bool := consult (·.access path)

/-- Does the path name a directory?  It must name something. -/
def isDirectory (path : Text) : Action Bool :=
  refused (.failed .inspect path) (return (← consult (·.stat path)).isDirectory)

/-- The nanosecond of the last change. -/
def modified (path : Text) : Action Int :=
  refused (.failed .inspect path) (return (← consult (·.stat path)).modified)

/-- The names in a directory. -/
def contents (path : Text) : Action Names :=
  Trace.traced .list .disk path <|
    refused (.failed .openDirectory path) (consult (·.list path))

/-- The content of a file. -/
def readBytes (path : Text) : Action ByteArray :=
  Trace.traced .read .disk path <|
    refused (orMissing .file .openForRead path) (consult (·.read path))

/-- Write a file, replacing the content of the one that is there. -/
def writeBytes (path : Text) (content : ByteArray) : Action Unit :=
  Trace.traced .write .disk path <|
    refused (.failed .openForWrite path)
      (onDisk (DiskAction.change (fun disk => disk.write path content)))

/-- The permission bits of the directories that the depot makes. -/
def directoryMode : Nat := 0o700

/-- Make a directory, and the missing ones above it if `recursive`. -/
def makeDirectory (path : Text) (recursive : Bool) : Action Unit :=
  refused (.failed .makeDirectory path) <|
    onDisk <|
      if recursive then DiskAction.makeDirectories path directoryMode
      else DiskAction.change (fun disk => disk.makeDirectory path directoryMode)

/-! ## Temporary directories -/

/-- The name of the temporary directory with a number. -/
def temporaryName (number : Nat) : Text :=
  "scratch/folder".toList ++ (toString number).toList

/-- How many names are tried before giving up. -/
def temporaryAttempts : Nat := 10000

/-- Make the first temporary directory whose name is free.  Every attempt uses up a number. -/
def tryTemporary : Nat → Action Text
  | 0 => meet (.system .alreadyExists "No usable temporary directory name found".toList)
  | attempts + 1 => fun site =>
      let number := site.lastTemporary + 1
      let name := temporaryName number
      let site := { site with lastTemporary := number }
      match site.disk.makeDirectory name directoryMode with
      | .ok disk => .ok name (site.withDisk disk)
      | .error (.system .alreadyExists _) => tryTemporary attempts site
      | .error incident => .error (.incident incident) site

/-- Make a temporary directory and give its path. -/
def makeTemporary : Action Text :=
  refused .noTemporaryDirectory (tryTemporary temporaryAttempts)

/-- Delete a directory with everything in it. -/
def deleteTree (path : Text) : Action Unit :=
  Trace.traced .delete .disk path <|
    refused (orMissing .directoryToDelete .deleteTree path)
      (onDisk (DiskAction.removeTree path))

end ArtifactDepot.Local
