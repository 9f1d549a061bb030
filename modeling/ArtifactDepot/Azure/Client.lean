import ArtifactDepot.Action

/-!
# The Azure client

The requests of the Azure client and the answers of the store.  What is not
there is refused with status 404, except that asking for existence is
answered.
-/

namespace ArtifactDepot.Azure.Client

open ArtifactDepot.Action

/-- The refusal for want of a container or a blob. -/
def notFound : Incident :=
  .remote "HTTP 404".toList [("status_code".toList, .whole 404)]

/-- A container of the store. -/
def container? (name : Text) : Action (Option Bucket) := do
  return (← get).cloud.bucket? .azure name

/-- Ask whether a container is there. -/
def containerExists (name : Text) : Action Bool := do
  perform (.containerExists name)
  return (← container? name).isSome

/-- Ask for the names one level below a start; names of directories end in a slash. -/
def walkBlobs (container : Text) (start : Option Text) : Action Names := do
  perform (.walkBlobs container start)
  match ← container? container with
  | none => meet notFound
  | some found => return found.stepsFrom (start.getD [])

/-- A blob, or the refusal for want of it. -/
def blob (container name : Text) : Action Object := do
  match (← container? container).bind (·.get? name) with
  | some object => return object
  | none => meet notFound

/-- Ask whether a blob is there. -/
def blobExists (container name : Text) : Action Bool := do
  perform (.blobExists container name)
  return ((← container? container).bind (·.get? name)).isSome

/-- Ask for the moment of a blob's last change. -/
def getProperties (container name : Text) : Action Moment := do
  perform (.getBlobProperties container name)
  return (← blob container name).updated

/-- Ask for a blob; its content is read separately. -/
def downloadBlob (container name : Text) : Action ByteArray := do
  perform (.downloadBlob container name)
  return (← blob container name).content

/-- Read the content of a blob that was asked for. -/
def readAll (container name : Text) (content : ByteArray) : Action ByteArray := do
  perform (.readAll container name)
  return content

/-- Store a blob, replacing the one that is there. -/
def upload (container name : Text) (content : ByteArray) : Action Unit := do
  perform (.uploadBlob container name content)
  match ← container? container with
  | none => meet notFound
  | some _ =>
      modify fun site =>
        { site with
          cloud := site.cloud.putObject .azure container name ⟨content, Object.usualMoment⟩ }

/-- Does an incident say that a blob is not there? -/
def isMissing : Incident → Bool
  | .remote _ attributes =>
      ((attributes.lookup "status_code".toList).map (·.isNumber 404)).getD false
  | _ => false

end ArtifactDepot.Azure.Client
