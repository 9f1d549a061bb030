import ArtifactDepot.Action

/-!
# The S3 client

The requests of the S3 client and the answers of the store.  A refused
request carries a response with a code.
-/

namespace ArtifactDepot.S3.Client

open ArtifactDepot.Action

/-- A refusal of the store. -/
def refusal (code operation : String) : Incident :=
  .remote
    ("An error occurred (" ++ code ++ ") when calling the " ++ operation ++ " operation").toList
    [("response".toList, .record [("Error".toList, .record [("Code".toList, Call.word code)])])]

/-- A bucket of the store, or the refusal of an operation for want of it. -/
def bucket (name : Text) (code operation : String) : Action Bucket := do
  match (← get).cloud.bucket? .s3 name with
  | some bucket => return bucket
  | none => meet (refusal code operation)

/-- One page of a listing. -/
structure Page where
  keys : List Text
  /-- Where the next page starts, if keys follow. -/
  next? : Option Nat

/-- The page of at most `limit` keys that starts after `start` of them. -/
def Page.of (keys : List Text) (limit start : Nat) : Page :=
  ⟨(keys.drop start).take limit,
    if start + limit < keys.length then some (start + limit) else none⟩

/-- Ask whether a bucket is there. -/
def headBucket (name : Text) : Action Unit := do
  perform (.headBucket name)
  discard (bucket name "404" "HeadBucket")

/-- Ask for a page of the keys that start with the given text. -/
def listObjects (name start : Text) (most token : Option Nat) : Action Page := do
  perform (.listObjects name start most token)
  let found ← bucket name "NoSuchBucket" "ListObjectsV2"
  let size := (← get).cloud.pageSize
  return .of (found.keysFrom start) (min (most.getD size) size) (token.getD 0)

/-- Ask for the moment of an object's last change. -/
def headObject (name key : Text) : Action Moment := do
  perform (.headObject name key)
  let found ← bucket name "NoSuchBucket" "HeadObject"
  match found.get? key with
  | some object => return object.updated
  | none => meet (refusal "404" "HeadObject")

/-- Ask for an object; its body is read separately. -/
def getObject (name key : Text) : Action ByteArray := do
  perform (.getObject name key)
  let found ← bucket name "NoSuchBucket" "GetObject"
  match found.get? key with
  | some object => return object.content
  | none => meet (refusal "NoSuchKey" "GetObject")

/-- Read the body of an object that was asked for. -/
def readBody (name key : Text) (content : ByteArray) : Action ByteArray := do
  perform (.readBody name key)
  return content

/-- The codes that say that an object is not there. -/
def missingCodes : List Text := ["404".toList, "NoSuchKey".toList, "NotFound".toList]

/-- The text of a code, if it can be one of those that are looked for. -/
def codeText? : Json → Option Text
  | .text code => some code
  | .whole code => some (toString code).toList
  | _ => none

/--
Does an incident say that an object is not there?  The response must hold a
record under `Error` if it holds anything there.
-/
def isMissing (incident : Incident) : Except Incident Bool :=
  match incident with
  | .remote _ attributes =>
      match attributes.lookup "response".toList with
      | some (.record response) =>
          match response.lookup "Error".toList with
          | none => .ok false
          | some (.record error) =>
              .ok (((error.lookup "Code".toList).bind codeText?).any missingCodes.contains)
          | some _ => .error .malformedResponse
      | _ => .ok false
  | _ => .ok false

end ArtifactDepot.S3.Client
