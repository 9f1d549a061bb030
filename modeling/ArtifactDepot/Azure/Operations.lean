import ArtifactDepot.Azure.Address
import ArtifactDepot.Azure.Client
import ArtifactDepot.Trace.Setup

/-!
# The Azure backend

Reading from Azure containers, and uploading of text.  A client is bound to
one account: that of the credential, of the environment or of the path's
host, in this order.
-/

namespace ArtifactDepot.Azure

open ArtifactDepot.Action

/-- The name of an account and its shared key; without a key access is anonymous. -/
structure Account where
  name : Text
  key : Text
  deriving DecidableEq, Repr

/-- The host of the path that a client is built for. -/
def hostOf (path : Option Text) : Except Fault Text :=
  match path with
  | none | some [] => .ok []
  | some path => (parse path).map (·.host)

/-- What a credential, or the environment without one, says about the account. -/
def accountStated (environment : Environment) (credential : Option AzureKey) : Account :=
  match credential with
  | some credential => ⟨credential.account, credential.accountKey⟩
  | none =>
      ⟨(environment.get? "AZURE_STORAGE_ACCOUNT").getD [],
        (environment.get? "AZURE_STORAGE_KEY").getD []⟩

/-- The account of the client for a path. -/
def accountFor (environment : Environment) (path : Option Text)
    (credential : Option AzureKey) : Except Fault Account := do
  let host ← hostOf path
  let stated := accountStated environment credential
  let name := if stated.name.isEmpty then accountOfHost host else stated.name
  if name.isEmpty then .error (.noAccount path) else .ok ⟨name, stated.key⟩

/-- The address of an account's service. -/
def Account.url (account : Account) : Text := "https://".toList ++ account.name ++ hostSuffix

/-- The path that a failure to build a client is reported with. -/
def clientPath (path : Option Text) : Text :=
  match path with
  | none | some [] => Kind.azure.scheme
  | some path => path

/-- Build the client of an account. -/
def openClient (serial : Nat) (path : Option Text) (account : Account) : Action Unit :=
  during .openAzureClient (clientPath path) do
    if !(← get).installed.contains .azure then meet (.moduleMissing Kind.azure.clientModule)
    perform (.openAzureClient serial account.url
      (if account.key.isEmpty then none else some (account.name, account.key)))

/-- Does the path name a directory?  For the container itself: does it exist? -/
def isDirectory (path : Text) : Action Bool := do
  let address ← ofRule (parse path)
  during .checkDirectory path do
    if address.blob.isEmpty then Client.containerExists address.container
    else
      let found ← Client.walkBlobs address.container (some (Key.asDirectory address.blob))
      return !found.toList.isEmpty

/-- Does the path name a blob or a directory? -/
def isPresent (path : Text) : Action Bool := do
  let address ← ofRule (parse path)
  let isBlob ←
    if address.blob.isEmpty then pure false
    else during .checkBlob path (Client.blobExists address.container address.blob)
  if isBlob then return true else isDirectory path

/-- Tell whether a blob is missing from failures of the store. -/
def orMissing {α : Type} (what : Quarry) (task : Task) (path : Text) (action : Action α) :
    Action α :=
  wrapping (fun incident =>
    if Client.isMissing incident then .missing what path (some incident)
    else .failed task path incident) action

/-- The nanosecond of a blob's last change, and zero for a directory. -/
def modified (path : Text) : Action Int := do
  if ← isDirectory path then return 0
  let address ← ofRule (parse path)
  let moment ← orMissing .blob .getBlobProperties path
    (Client.getProperties address.container address.blob)
  return moment.nanoseconds

/-- A name in a directory; is it that of a directory? -/
structure Child where
  name : Text
  isDirectory : Bool
  deriving DecidableEq, Repr

/-- The child that a walk reports below a directory, if it reports one. -/
def childOf? (directory step : Text) : Option Child :=
  (Key.child? step directory).map (fun name => ⟨name, [Text.slash].isSuffixOf step⟩)

/-- The children of a directory. -/
def walk (path : Text) : Action (List Child) := do
  let address ← ofRule (parse path)
  let directory := Key.asDirectory address.blob
  during .listDirectory path do
    let steps ← Client.walkBlobs address.container
      (if directory.isEmpty then none else some directory)
    return steps.toList.filterMap (childOf? directory)

/-- The names in a directory. -/
def contents (path : Text) : Action Names :=
  Trace.traced .list .azure path do
    return Names.ofList ((← walk path).map (·.name))

/-- The names of the directories in a directory. -/
def subdirectories (path : Text) : Action Names := do
  return Names.ofList (((← walk path).filter (·.isDirectory)).map (·.name))

/-- The names of the blobs in a directory. -/
def files (path : Text) : Action Names := do
  return Names.ofList (((← walk path).filter (fun child => !child.isDirectory)).map (·.name))

/-- The content of a blob. -/
def readBytes (path : Text) : Action ByteArray :=
  Trace.traced .read .azure path do
    let address ← ofRule (parse path)
    if address.blob.isEmpty then raise (.missing .file path none)
    orMissing .file .fetchBlob path do
      let content ← Client.downloadBlob address.container address.blob
      Client.readAll address.container address.blob content

/-- Upload a text as a blob, replacing the one that is there. -/
def writeText (path : Text) (text : String) : Action Unit :=
  Trace.traced .write .azure path do
    let address ← ofRule (parse path)
    if address.blob.isEmpty then raise (.noBlob path)
    during .uploadBlob path
      (Client.upload address.container address.blob text.toUTF8)

end ArtifactDepot.Azure
