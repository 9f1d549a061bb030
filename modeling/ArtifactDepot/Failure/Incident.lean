import ArtifactDepot.Json.Value
import ArtifactDepot.Text.Quoted

/-!
# Incidents

What the surroundings of the depot report when they cannot do what was asked:
the operating system, the clients of the object stores, the decoders and the
tracing set-up.  An incident is kept whole, as a value, when the depot turns
it into a fault of its own.
-/

namespace ArtifactDepot

/-- A refusal of the operating system. -/
inductive Refusal where
  | noEntry
  | alreadyExists
  | busy
  | notDirectory
  | isDirectory
  | invalidArgument
  | nameTooLong
  | notEmpty
  deriving DecidableEq, Repr

namespace Refusal

/-- The error number. -/
def number : Refusal → Nat
  | .noEntry => 2
  | .busy => 16
  | .alreadyExists => 17
  | .notDirectory => 20
  | .isDirectory => 21
  | .invalidArgument => 22
  | .nameTooLong => 36
  | .notEmpty => 39

/-- The system's words for it. -/
def describe : Refusal → String
  | .noEntry => "No such file or directory"
  | .busy => "Device or resource busy"
  | .alreadyExists => "File exists"
  | .notDirectory => "Not a directory"
  | .isDirectory => "Is a directory"
  | .invalidArgument => "Invalid argument"
  | .nameTooLong => "File name too long"
  | .notEmpty => "Directory not empty"

/-- The class that the refusal is reported under. -/
def className : Refusal → String
  | .noEntry => "FileNotFoundError"
  | .alreadyExists => "FileExistsError"
  | .notDirectory => "NotADirectoryError"
  | .isDirectory => "IsADirectoryError"
  | .busy | .invalidArgument | .nameTooLong | .notEmpty => "OSError"

end Refusal

/-- What is wrong with a credential record. -/
inductive Complaint where
  /-- The record is no JSON object. -/
  | notRecord
  /-- The field is there and no string. -/
  | notText (field : Text)
  deriving DecidableEq, Repr

namespace Complaint

/-- Where in the record the complaint lies. -/
def location : Complaint → List Text
  | .notRecord => []
  | .notText field => [field]

/-- The name of the rule that is broken. -/
def rule : Complaint → String
  | .notRecord => "model_type"
  | .notText _ => "string_type"

end Complaint

/-- Something that went wrong outside the depot. -/
inductive Incident where
  /-- The operating system refused a call on the named file. -/
  | system (refusal : Refusal) (name : Text)
  /-- A file name with a NUL character cannot be handed to the system. -/
  | embeddedNul
  /-- A path does not lie under the root it was to be seen from. -/
  | notUnder (path root : Text)
  | notUtf8
  /-- A path cannot be encoded in UTF-8, for a reason given by the encoder. -/
  | unencodable (words : String)
  | malformedDocument
  | numberTooLong
  /-- A document has too many containers inside each other; the innermost one is not read. -/
  | nestedTooDeep (container : Json.Container)
  | invalidRecord (complaints : List Complaint)
  /-- Calls lie too deep inside each other. -/
  | stackExhausted
  /-- A store's client failed, with attributes that tell more. -/
  | remote (words : Text) (attributes : List (Text × Json))
  /-- The attributes of a client's failure do not have the shape they must have. -/
  | malformedResponse
  | broken (words : Text)
  /-- Nothing goes by the name. -/
  | unnamed (name : Text)
  | moduleMissing (name : String)
  | tracingRequired (reason : String)

namespace Incident

/-- The class that the incident is reported under. -/
def className : Incident → String
  | .system refusal _ => refusal.className
  | .embeddedNul | .notUnder .. | .numberTooLong => "ValueError"
  | .notUtf8 => "UnicodeDecodeError"
  | .unencodable _ => "UnicodeEncodeError"
  | .malformedDocument => "JSONDecodeError"
  | .nestedTooDeep _ | .stackExhausted => "RecursionError"
  | .invalidRecord _ => "ValidationError"
  | .remote .. => "RemoteError"
  | .malformedResponse => "AttributeError"
  | .broken _ => "RuntimeError"
  | .unnamed _ => "KeyError"
  | .moduleMissing _ => "ModuleNotFoundError"
  | .tracingRequired _ => "TracingConfigError"

/-- The words of the incident.  Those of a refused document are withheld. -/
def message : Incident → String
  | .system refusal name =>
      "[Errno " ++ toString refusal.number ++ "] " ++ refusal.describe ++ ": " ++
        (Text.quoted name).string
  | .embeddedNul => "embedded null byte"
  | .notUnder path root =>
      (Text.quoted path).string ++ " is not under " ++ (Text.quoted root).string
  | .notUtf8 => "invalid UTF-8"
  | .unencodable words => words
  | .malformedDocument | .invalidRecord _ => "<detail>"
  | .numberTooLong => "Exceeds the limit for integer string conversion"
  | .nestedTooDeep container =>
      "maximum recursion depth exceeded while decoding a JSON " ++ container.name ++
        " from a unicode string"
  | .stackExhausted => "maximum recursion depth exceeded"
  | .remote words _ => words.string
  | .malformedResponse => "object has no attribute 'get'"
  | .broken words => words.string
  | .unnamed name => (Text.quoted name).string
  | .moduleMissing name => "No module named '" ++ name ++ "'"
  | .tracingRequired reason =>
      "OpenTelemetry tracing required but configuration failed: " ++ reason

end Incident

end ArtifactDepot
