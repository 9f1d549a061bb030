import ArtifactDepot.Failure.Fault
import ArtifactDepot.Key

/-!
# Addresses of Cloud Storage objects

A path `gs://bucket/object` names a bucket and, below it, an object.  Extra
slashes around and inside the object part are dropped.
-/

namespace ArtifactDepot.Gcs

open Text (slash)

/-- A bucket and the name of an object in it; the empty name is the bucket itself. -/
structure Address where
  bucket : Text
  object : Text
  deriving DecidableEq, Repr

/-- The address of a path, with or without its scheme. -/
def parse (path : Text) : Except Fault Address :=
  let rest := Kind.gcs.strip path
  let bucket := rest.takeWhile (· != slash)
  if bucket.isEmpty then .error (.noBucket path)
  else .ok ⟨bucket, Key.canonical (rest.drop (bucket.length + 1))⟩

/-- The path that names an address. -/
def Address.path (address : Address) : Text :=
  Kind.gcs.scheme ++ address.bucket ++
    (if address.object.isEmpty then [] else slash :: address.object)

/-- The canonical form of a path. -/
def normalize (path : Text) : Except Fault Text := (parse path).map Address.path

end ArtifactDepot.Gcs
