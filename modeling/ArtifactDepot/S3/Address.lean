import ArtifactDepot.Key
import ArtifactDepot.S3.Endpoint

/-!
# Addresses of S3 objects

A path is `s3://bucket/key`, or it names an endpoint in front of the bucket.
The address is the bucket and the key; the endpoint is no part of it.
-/

namespace ArtifactDepot.S3

open Text (slash)

/-- A bucket and a key in it; the empty key is the bucket itself. -/
structure Address where
  bucket : Text
  key : Text
  deriving DecidableEq, Repr

/-- Cut off the first component as the bucket. -/
def addressOf (rest : Text) : Address :=
  let bucket := rest.takeWhile (· != slash)
  ⟨bucket, rest.drop (bucket.length + 1)⟩

/-- The address of a path; an endpoint is no part of it. -/
def parse (path : Text) : Except Fault Address := do
  let cleaned ← clean path
  let address :=
    match Endpoint.ofPath? cleaned with
    | some endpoint => ⟨endpoint.bucket, endpoint.key⟩
    | none => addressOf (Kind.s3.strip cleaned)
  if address.bucket.isEmpty then .error (.noBucket path) else .ok address

/-- The path that names an address at S3 itself. -/
def Address.path (address : Address) : Text :=
  Kind.s3.scheme ++ address.bucket ++
    (if address.key.isEmpty then [] else slash :: address.key)

/-- The canonical form of a path. -/
def normalize (path : Text) : Except Fault Text := (parse path).map Address.path

end ArtifactDepot.S3
