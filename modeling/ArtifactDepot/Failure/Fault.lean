import ArtifactDepot.Failure.Incident
import ArtifactDepot.Kind.Basic

/-!
# Faults

The errors of the depot itself.  A fault says what happened and keeps the
incident, or the fault, that caused it; its kind, its wording, its path and
its cause are read off that one value.
-/

namespace ArtifactDepot

/-- What a caller can tell apart without looking at a fault's kind. -/
inductive Code where
  | notFound
  | invalidArgument
  | unsupported
  | internal
  deriving DecidableEq, Repr

/-- The name of a code. -/
def Code.name : Code → String
  | .notFound => "NOT_FOUND"
  | .invalidArgument => "INVALID_ARGUMENT"
  | .unsupported => "UNSUPPORTED"
  | .internal => "INTERNAL"

/-- The kinds of fault. -/
inductive FaultKind where
  | general
  | pathNotFound
  | credentialNotFound
  | invalidPath
  | unsupported
  | ambientUnsupported
  | backend
  | credentialConfig
  deriving DecidableEq, Repr

namespace FaultKind

/-- Every kind of fault. -/
def all : List FaultKind :=
  [.general, .pathNotFound, .credentialNotFound, .invalidPath, .unsupported,
    .ambientUnsupported, .backend, .credentialConfig]

/-- The class name of a kind. -/
def className : FaultKind → String
  | .general => "FileSystemError"
  | .pathNotFound => "PathNotFoundError"
  | .credentialNotFound => "CredentialNotFoundError"
  | .invalidPath => "InvalidPathError"
  | .unsupported => "UnsupportedOperationError"
  | .ambientUnsupported => "AmbientCredentialsUnsupportedError"
  | .backend => "BackendError"
  | .credentialConfig => "CredentialConfigError"

/-- The kind with a given class name. -/
def ofClassName? (name : String) : Option FaultKind :=
  all.find? (fun kind => kind.className == name)

/-- The kind itself and every kind that it is a special case of, in that order. -/
def lineage : FaultKind → List FaultKind
  | .general => [.general]
  | .ambientUnsupported => [.ambientUnsupported, .unsupported, .general]
  | .credentialConfig => [.credentialConfig, .backend, .general]
  | kind => [kind, .general]

/-- Is the first kind the second one, or a special case of it? -/
def isA (kind ancestor : FaultKind) : Bool := kind.lineage.contains ancestor

/-- The code of a kind. -/
def code : FaultKind → Code
  | .pathNotFound | .credentialNotFound => .notFound
  | .invalidPath => .invalidArgument
  | .unsupported | .ambientUnsupported => .unsupported
  | .general | .backend | .credentialConfig => .internal

end FaultKind

/-- What was being done to a path when an incident stopped it. -/
inductive Task where
  | inspect
  | openDirectory
  | openForRead
  | openForWrite
  | makeDirectory
  | deleteTree
  | getObjectMetadata
  | checkDirectory
  | getObjectTime
  | listDirectory
  | readObject
  | headBucket (bucket : Text)
  | listObjects
  | headObject
  | getObject
  | readBody
  | checkBlob
  | getBlobProperties
  | fetchBlob
  | uploadBlob
  | openGcsClient
  | openS3Client
  | openAzureClient

namespace Task

/-- The words that come before the path. -/
def words : Task → String
  | .inspect => "failed to stat file "
  | .openDirectory => "failed to open directory "
  | .openForRead => "failed to open file for read "
  | .openForWrite => "failed to open file for write "
  | .makeDirectory => "Failed to create directory '"
  | .deleteTree => "Failed to delete directory "
  | .getObjectMetadata => "Failed to get metadata for object at "
  | .checkDirectory => "Failed to check if directory at "
  | .getObjectTime => "Failed to get modification time for object at "
  | .listDirectory => "Failed to get contents of directory "
  | .readObject => "Failed to read file at "
  | .headBucket bucket => "Could not get MetaData for bucket with name " ++ bucket.string ++ " at "
  | .listObjects => "Failed to list objects with prefix "
  | .headObject => "Could not get MetaData for object at "
  | .getObject => "Failed to get object at "
  | .readBody => "Failed to read object body at "
  | .checkBlob => "Failed to check if file exists at "
  | .getBlobProperties => "Unable to get blob property for file at "
  | .fetchBlob => "Failed to fetch file stream at "
  | .uploadBlob => "Failed to upload blob to "
  | .openGcsClient => "Unable to create GCS client for "
  | .openS3Client => "Unable to create S3 client for "
  | .openAzureClient => "Unable to create Azure filesystem client for "

/-- The words that come between the path and those of the incident. -/
def link : Task → String
  | .makeDirectory => "': "
  | _ => ": "

end Task

/-- What was looked for in vain. -/
inductive Quarry where
  | file
  | object
  | blob
  | directoryToDelete
  | directoryToLocalize

/-- The words for a path at which nothing was found. -/
def Quarry.words : Quarry → String
  | .file => "File does not exist at "
  | .object => "Object does not exist at "
  | .blob => "Blob does not exist at "
  | .directoryToDelete => "Directory does not exist at "
  | .directoryToLocalize => "directory does not exist at "

/-- The operations on a path that not every kind of backend has. -/
inductive Extra where
  | writeText
  | writeBytes
  | makeDirectory
  | deleteTree

/-- The words for an operation that a backend lacks. -/
def Extra.words : Extra → String
  | .writeText => "Write text file operation"
  | .writeBytes => "Write binary file operation"
  | .makeDirectory => "Make directory operation"
  | .deleteTree => "Delete directory operation"

/-- An error of the depot. -/
inductive Fault where
  | emptyPath
  | noBucket (path : Text)
  /-- Nothing but slashes follows the scheme. -/
  | onlySlashes (rest path : Text)
  | malformedAzurePath (path : Text)
  | noAccount (path : Option Text)
  | noBlob (path : Text)
  | clientMissing (kind : Kind)
  | lacks (operation : Extra) (path : Text)
  | lacksTemporaryDirectory (kind : Kind)
  | ambientNeedsPath (kind : Kind)
  | noCredential (kind : Kind) (path : Text)
  | missing (what : Quarry) (path : Text) (cause : Option Incident)
  | failed (task : Task) (path : Text) (cause : Incident)
  | noTemporaryDirectory (cause : Incident)
  | unknownBucket (bucket path : Text)
  | notText (path : Text)
  | unhealthy (path : Text) (cause : Fault)
  | clientFailed (kind : Kind) (path : Option Text) (cause : Incident)
  | configUnreadable (config : Text) (cause : Incident)
  | configMalformed (config : Text)
  | configNotRecord (config : Text)
  | sectionNotRecord (name config : Text)
  | invalidEntry (name entry config : Text) (complaints : List Complaint)
  /-- A fault that is given by its parts. -/
  | stated (kind : FaultKind) (words : Text) (path : Option Text) (cause : Option Incident)

/-- Whatever ends an operation early. -/
inductive Failure where
  | fault (fault : Fault)
  | incident (incident : Incident)

namespace Fault

/-- The kind of a fault. -/
def kind : Fault → FaultKind
  | .emptyPath | .noBucket _ | .onlySlashes .. | .malformedAzurePath _ | .noAccount _
  | .noBlob _ => .invalidPath
  | .clientMissing _ | .lacks .. | .lacksTemporaryDirectory _ => .unsupported
  | .ambientNeedsPath _ => .ambientUnsupported
  | .noCredential .. => .credentialNotFound
  | .missing .. => .pathNotFound
  | .failed .. | .noTemporaryDirectory _ | .unknownBucket .. | .notText _ | .unhealthy ..
  | .clientFailed .. => .backend
  | .configUnreadable .. | .configMalformed _ | .configNotRecord _ | .sectionNotRecord ..
  | .invalidEntry .. => .credentialConfig
  | .stated kind .. => kind

/-- The path that a fault is about, if it names one. -/
def path? : Fault → Option Text
  | .emptyPath => some []
  | .noBucket path | .onlySlashes _ path | .malformedAzurePath path | .noBlob path
  | .lacks _ path | .noCredential _ path | .missing _ path _ | .failed _ path _
  | .unknownBucket _ path | .notText path | .unhealthy path _ => some path
  | .configUnreadable config _ | .configMalformed config | .configNotRecord config
  | .sectionNotRecord _ config | .invalidEntry _ _ config _ => some config
  | .noAccount path | .clientFailed _ path _ | .stated _ _ path _ => path
  | .clientMissing _ | .lacksTemporaryDirectory _ | .ambientNeedsPath _
  | .noTemporaryDirectory _ => none

/-- What brought the fault about. -/
def cause? : Fault → Option Failure
  | .missing _ _ cause | .stated _ _ _ cause => cause.map .incident
  | .failed _ _ cause | .noTemporaryDirectory cause | .clientFailed _ _ cause
  | .configUnreadable _ cause => some (.incident cause)
  | .notText _ => some (.incident .notUtf8)
  | .unhealthy _ cause => some (.fault cause)
  | .configMalformed _ => some (.incident .malformedDocument)
  | .invalidEntry _ _ _ complaints => some (.incident (.invalidRecord complaints))
  | _ => none

/-- What brought the fault about, what brought that about, and so on. -/
def causes : Fault → List Failure
  | .unhealthy _ cause => .fault cause :: cause.causes
  | fault => fault.cause?.toList

/-- The words of a fault, before its path is added. -/
def statement : Fault → String
  | .emptyPath => "Can not infer filesystem type from empty path"
  | .noBucket path => "No bucket name found in path: " ++ path.string
  | .onlySlashes rest _ => "Invalid bucket name: '" ++ rest.string ++ "'"
  | .malformedAzurePath path => "Invalid azure storage path: " ++ path.string
  | .noAccount _ => "No Azure storage account name found"
  | .noBlob path => "No blob name found in path: " ++ path.string
  | .clientMissing kind =>
      kind.scheme.string ++ " file-system not supported. To enable, install artifactfs[" ++
        kind.extra ++ "]."
  | .lacks operation path => operation.words ++ " not yet implemented " ++ path.string
  | .lacksTemporaryDirectory kind =>
      "Make temporary directory operation not yet implemented for " ++ kind.label
  | .ambientNeedsPath kind =>
      "Unable to create " ++ kind.name ++ " filesystem client from ambient credentials " ++
        "without a path. Set ARTIFACTFS_CLOUD_CREDENTIAL_PATH to use " ++
        "credentials from a file."
  | .noCredential kind path =>
      "Cannot match credential for path " ++ kind.scheme.string ++ (kind.strip path).string
  | .missing what path _ => what.words ++ path.string
  | .failed task path cause => task.words ++ path.string ++ task.link ++ cause.message
  | .noTemporaryDirectory cause => "Failed to create local temp folder: " ++ cause.message
  | .unknownBucket bucket _ => "Could not get MetaData for bucket with name " ++ bucket.string
  | .notText path => "File is not valid UTF-8 text: " ++ path.string
  | .unhealthy .. => "Unable to create S3 filesystem client. Check account credentials."
  | .clientFailed kind _ cause =>
      "Unable to create " ++ kind.name ++ " filesystem client: " ++ cause.message
  | .configUnreadable config cause =>
      "Failed to read credential file " ++ config.string ++ ": " ++ cause.message
  | .configMalformed config =>
      "Failed to parse credential file " ++ config.string ++ ": " ++
        Incident.malformedDocument.message
  | .configNotRecord config => "Credential file must contain a JSON object: " ++ config.string
  | .sectionNotRecord name config =>
      "Credential section '" ++ name.string ++ "' must be an object in " ++ config.string
  | .invalidEntry name entry config complaints =>
      "Invalid '" ++ name.string ++ "' credential for prefix '" ++ entry.string ++ "' in " ++
        config.string ++ ": " ++ (Incident.invalidRecord complaints).message
  | .stated _ words _ _ => words.string

/-- The whole message: the path is added unless the words already hold it. -/
def message (fault : Fault) : String :=
  match fault.path? with
  | none => fault.statement
  | some path =>
      if Text.occurs path fault.statement.toList then fault.statement
      else fault.statement ++ " path=" ++ path.string

/-- The code of a fault. -/
def code (fault : Fault) : Code := fault.kind.code

end Fault

namespace Failure

/-- The class that the failure is reported under. -/
def className : Failure → String
  | .fault raised => raised.kind.className
  | .incident met => met.className

/-- The words of the failure. -/
def message : Failure → String
  | .fault raised => raised.message
  | .incident met => met.message

/-- The failure in one line. -/
def line (failure : Failure) : String := failure.className ++ ": " ++ failure.message

/-- The failure and everything that brought it about. -/
def chain : Failure → List Failure
  | .fault raised => .fault raised :: raised.causes
  | .incident met => [.incident met]

/-- A line for the failure, after those for what brought it about. -/
def account (failure : Failure) : String :=
  String.ofList (failure.chain.reverse.flatMap fun told => told.line.toList ++ ['\n'])

/-- Is it a fault of the given kind, or of a special case of it? -/
def isFault (kind : FaultKind) : Failure → Bool
  | .fault raised => raised.kind.isA kind
  | .incident _ => false

end Failure

end ArtifactDepot
