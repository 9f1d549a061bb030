import ArtifactDepot.Backend.Open
import ArtifactDepot.Path

/-!
# Backend operations

The operations of a backend, by its kind.  What only some kinds can do is
refused by the others.
-/

namespace ArtifactDepot.Backend

open ArtifactDepot.Action

/-- The canonical form of a path. -/
def normalize (kind : Kind) (path : Text) : Except Fault Text :=
  match kind with
  | .disk => .ok path
  | .gcs => Gcs.normalize path
  | .s3 => S3.normalize path
  | .azure => Azure.normalize path

/-- Does the path name a file or a directory? -/
def isPresent (kind : Kind) (path : Text) : Action Bool :=
  match kind with
  | .disk => Local.isPresent path
  | .gcs => Gcs.isPresent path
  | .s3 => S3.isPresent path
  | .azure => Azure.isPresent path

/-- Does the path name a directory? -/
def isDirectory (kind : Kind) (path : Text) : Action Bool :=
  match kind with
  | .disk => Local.isDirectory path
  | .gcs => Gcs.isDirectory path
  | .s3 => S3.isDirectory path
  | .azure => Azure.isDirectory path

/-- The nanosecond of the last change. -/
def modified (kind : Kind) (path : Text) : Action Int :=
  match kind with
  | .disk => Local.modified path
  | .gcs => Gcs.modified path
  | .s3 => S3.modified path
  | .azure => Azure.modified path

/-- The names in a directory. -/
def contents (kind : Kind) (path : Text) : Action Names :=
  match kind with
  | .disk => Local.contents path
  | .gcs => Gcs.contents path
  | .s3 => S3.contents path
  | .azure => Azure.contents path

/-- The content of a file. -/
def readBytes (kind : Kind) (path : Text) : Action ByteArray :=
  match kind with
  | .disk => Local.readBytes path
  | .gcs => Gcs.readBytes path
  | .s3 => S3.readBytes path
  | .azure => Azure.readBytes path

/-- The names in a directory of which it is, or is not, known that they are directories. -/
def select (kind : Kind) (path : Text) (wanted : Bool) : Action Names := do
  let names := (← contents kind path).toList
  let chosen ← names.filterM fun name =>
    return (← isDirectory kind (Path.join [path, name])) == wanted
  return Names.ofList chosen

/-- The names of the directories in a directory. -/
def subdirectories (kind : Kind) (path : Text) : Action Names :=
  match kind with
  | .azure => Azure.subdirectories path
  | _ => select kind path true

/-- The names of the files in a directory. -/
def files (kind : Kind) (path : Text) : Action Names :=
  match kind with
  | .azure => Azure.files path
  | _ => select kind path false

/-- The content of a file as text. -/
def readText (kind : Kind) (path : Text) : Action String := do
  match String.fromUTF8? (← readBytes kind path) with
  | some text => return text
  | none => raise (.notText path)

/-- Write a text file, replacing the content of the one that is there. -/
def writeText (kind : Kind) (path : Text) (text : String) : Action Unit :=
  match kind with
  | .disk => Local.writeBytes path text.toUTF8
  | .azure => Azure.writeText path text
  | .gcs | .s3 => raise (.lacks .writeText path)

/-- Write a file, replacing the content of the one that is there. -/
def writeBytes (kind : Kind) (path : Text) (content : ByteArray) : Action Unit :=
  match kind with
  | .disk => Local.writeBytes path content
  | .gcs | .s3 | .azure => raise (.lacks .writeBytes path)

/-- Make a directory, and the missing ones above it if `recursive`. -/
def makeDirectory (kind : Kind) (path : Text) (recursive : Bool) : Action Unit :=
  match kind with
  | .disk => Local.makeDirectory path recursive
  | .gcs | .s3 | .azure => raise (.lacks .makeDirectory path)

/-- Make a temporary directory and give its path. -/
def makeTemporary (kind : Kind) : Action Text :=
  match kind with
  | .disk => Local.makeTemporary
  | .gcs | .s3 | .azure => raise (.lacksTemporaryDirectory kind)

/-- Delete a directory with everything in it. -/
def deleteTree (kind : Kind) (path : Text) : Action Unit :=
  match kind with
  | .disk => Local.deleteTree path
  | .gcs | .s3 | .azure => raise (.lacks .deleteTree path)

end ArtifactDepot.Backend
