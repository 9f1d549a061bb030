import ArtifactDepot.S3.Address
import ArtifactDepot.S3.Client
import ArtifactDepot.Trace.Setup

/-!
# The S3 backend

Reading from S3 and compatible stores.  A client is bound to the endpoint of
the path it was built for.  Listings come in pages, each of which names the
token of the next one.
-/

namespace ArtifactDepot.S3

open ArtifactDepot.Action

/-- A field that is left out when it is empty. -/
def orNull (value : Text) : Json := if value.isEmpty then .null else .text value

/-- What a session is opened with: the region, and the keys if there are both. -/
def sessionSettings : Option S3Key → List (Text × Json)
  | none => []
  | some credential =>
      ("region_name".toList, orNull credential.region) ::
        if credential.keyId.isEmpty || credential.secretKey.isEmpty then []
        else
          [("aws_access_key_id".toList, .text credential.keyId),
            ("aws_secret_access_key".toList, .text credential.secretKey),
            ("aws_session_token".toList, orNull credential.sessionToken)]

/-- The endpoint of the path that a client is built for. -/
def endpointOf (path : Option Text) : Except Fault (Option Text) :=
  match path with
  | none | some [] => .ok none
  | some path => endpointUrl path

/-- The path that a failure to build a client is reported with. -/
def clientPath (path : Option Text) : Text :=
  match path with
  | none | some [] => Kind.s3.scheme
  | some path => path

/-- Build the client for an endpoint. -/
def openClient (serial : Nat) (path endpoint : Option Text) (credential : Option S3Key) :
    Action Unit :=
  during .openS3Client (clientPath path) do
    if !(← get).installed.contains .s3 then meet (.moduleMissing Kind.s3.clientModule)
    perform (.openS3Session (sessionSettings credential))
    perform (.openS3Client serial endpoint)

/-- Does the path name a directory?  Its bucket must exist. -/
def isDirectory (path : Text) : Action Bool := do
  let address ← ofRule (parse path)
  during (.headBucket address.bucket) path (Client.headBucket address.bucket)
  if address.key.isEmpty then return true
  let page ← during .listObjects path
    (Client.listObjects address.bucket (Key.asDirectory address.key) (some 1) none)
  return !page.keys.isEmpty

/-- The moment of an object's last change, if the object is there. -/
def headObject? (path : Text) (address : Address) : Action (Option Moment) :=
  recover (return some (← Client.headObject address.bucket address.key)) fun failure =>
    match failure with
    | .fault fault => raise fault
    | .incident incident => do
        if ← ofCall (Client.isMissing incident) then return none
        else raise (.failed .headObject path incident)

/-- Does the path name a directory or an object? -/
def isPresent (path : Text) : Action Bool := do
  if ← isDirectory path then return true
  let address ← ofRule (parse path)
  return (← headObject? path address).isSome

/-- The nanosecond of an object's last change, and zero for a directory. -/
def modified (path : Text) : Action Int := do
  if ← isDirectory path then return 0
  let address ← ofRule (parse path)
  match ← headObject? path address with
  | some moment => return moment.nanoseconds
  | none => raise (.missing .object path none)

/--
Gather the names in a directory page by page.  The bound is on the number of
pages that are still asked for; every page but the last one names a key.
-/
def gather (bucket directory : Text) : Nat → Option Nat → Names → Action Names
  | 0, _, found => return found
  | bound + 1, token, found => do
      let page ← Client.listObjects bucket directory none token
      let found := (Names.ofList (page.keys.filterMap (Key.child? · directory))).union found
      match page.next? with
      | none => return found
      | some next => gather bucket directory bound (some next) found

/-- No listing of a bucket has more pages than this. -/
def pageBound (bucket : Text) : Action Nat := do
  return (((← get).cloud.bucket? .s3 bucket).getD []).length + 1

/-- The names in a directory. -/
def contents (path : Text) : Action Names :=
  Trace.traced .list .s3 path do
    let address ← ofRule (parse path)
    let bound ← pageBound address.bucket
    during .listObjects path
      (gather address.bucket (Key.asDirectory address.key) bound none .empty)

/-- Ask for an object, and tell whether it is missing from failures of the store. -/
def fetch (path : Text) (address : Address) : Action ByteArray :=
  recover (Client.getObject address.bucket address.key) fun failure =>
    match failure with
    | .fault fault => raise fault
    | .incident incident => do
        if ← ofCall (Client.isMissing incident) then raise (.missing .file path (some incident))
        else raise (.failed .getObject path incident)

/-- The content of an object. -/
def readBytes (path : Text) : Action ByteArray :=
  Trace.traced .read .s3 path do
    let address ← ofRule (parse path)
    let body ← fetch path address
    during .readBody path (Client.readBody address.bucket address.key body)

/-- A client is healthy if it can tell whether the path is a directory. -/
def probe (path : Text) : Action Unit :=
  recover (discard (isDirectory path)) fun failure =>
    match failure with
    | .fault fault => raise (.unhealthy path fault)
    | other => throw other

end ArtifactDepot.S3
