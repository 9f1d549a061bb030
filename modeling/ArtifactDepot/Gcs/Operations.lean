import ArtifactDepot.Gcs.Address
import ArtifactDepot.Gcs.Client
import ArtifactDepot.Trace.Setup

/-!
# The Cloud Storage backend

Reading from Cloud Storage.  Directories are inferred from the names of the
objects; an incident of the client becomes a fault that names the path.
-/

namespace ArtifactDepot.Gcs

open ArtifactDepot.Action

/-- Build the client, with a service account or with ambient credentials. -/
def openClient (serial : Nat) (credential : Option GcsKey) : Action Unit :=
  during .openGcsClient Kind.gcs.scheme do
    if !(← get).installed.contains .gcs then meet (.moduleMissing Kind.gcs.clientModule)
    let keyFile := (credential.map (·.keyFile)).getD []
    perform (.openGcsClient serial (if keyFile.isEmpty then none else some keyFile))

/-- Does the path name a directory?  Its bucket must exist. -/
def isDirectory (path : Text) : Action Bool := do
  let address ← ofRule (parse path)
  during .checkDirectory path do
    if !(← Client.lookupBucket address.bucket) then raise (.unknownBucket address.bucket path)
    if address.object.isEmpty then return true
    let found ← Client.listBlobs address.bucket (Key.asDirectory address.object) (some 1)
    return !found.isEmpty

/-- Does the path name an object or a directory? -/
def isPresent (path : Text) : Action Bool := do
  let address ← ofRule (parse path)
  let isObject ←
    if address.object.isEmpty then pure false
    else during .getObjectMetadata path (return (← Client.getBlob address.bucket address.object).isSome)
  if isObject then return true else isDirectory path

/-- The nanosecond of an object's last change, and zero for a directory. -/
def modified (path : Text) : Action Int := do
  if ← isDirectory path then return 0
  let address ← ofRule (parse path)
  match ← during .getObjectTime path (Client.getBlob address.bucket address.object) with
  | some object => return object.updated.nanoseconds
  | none => raise (.missing .object path none)

/-- The names in a directory. -/
def contents (path : Text) : Action Names :=
  Trace.traced .list .gcs path do
    let address ← ofRule (parse path)
    let directory := Key.asDirectory address.object
    let keys ← during .listDirectory path (Client.listBlobs address.bucket directory none)
    return Names.ofList (keys.filterMap (Key.child? · directory))

/-- The content of an object. -/
def readBytes (path : Text) : Action ByteArray :=
  Trace.traced .read .gcs path do
    let address ← ofRule (parse path)
    during .readObject path do
      let blob ←
        if address.object.isEmpty then pure none else Client.getBlob address.bucket address.object
      match blob with
      | none => raise (.missing .file path none)
      | some object => Client.download address.bucket address.object object

end ArtifactDepot.Gcs
