import ArtifactDepot.Action

/-!
# The Cloud Storage client

The requests of the Cloud Storage client and the answers of the store.  What
is not there is answered by nothing, except that listing a missing bucket is
refused.
-/

namespace ArtifactDepot.Gcs.Client

open ArtifactDepot.Action

/-- Ask whether a bucket is there. -/
def lookupBucket (name : Text) : Action Bool := do
  perform (.lookupBucket name)
  return ((← get).cloud.bucket? .gcs name).isSome

/-- Ask for an object. -/
def getBlob (bucket name : Text) : Action (Option Object) := do
  perform (.getBlob bucket name)
  return ((← get).cloud.bucket? .gcs bucket).bind (·.get? name)

/-- The refusal to list a missing bucket. -/
def noSuchBucket (name : Text) : Incident :=
  .remote ("404 bucket ".toList ++ name ++ " does not exist".toList) []

/-- Ask for the keys that start with the given text, or for the first of them. -/
def listBlobs (bucket start : Text) (most : Option Nat) : Action (List Text) := do
  perform (.listBlobs bucket start most)
  match (← get).cloud.bucket? .gcs bucket with
  | none => meet (noSuchBucket bucket)
  | some found =>
      let keys := found.keysFrom start
      return (most.map keys.take).getD keys

/-- Download an object that was asked for. -/
def download (bucket name : Text) (object : Object) : Action ByteArray := do
  perform (.download bucket name)
  return object.content

end ArtifactDepot.Gcs.Client
