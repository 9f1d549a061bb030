import ArtifactDepot.Entries
import ArtifactDepot.Key
import ArtifactDepot.Kind.Basic
import ArtifactDepot.Moment
import ArtifactDepot.Text.Names

/-!
# Buckets

What the object stores hold: buckets, which Azure calls containers, of
objects by key.  Listings name keys in code-point order.
-/

namespace ArtifactDepot

/-- An object: its content and the moment of its last change. -/
structure Object where
  content : ByteArray
  updated : Moment

/-- The moment that an object has unless another is given. -/
def Object.usualMoment : Moment := ⟨2024, 1, 2, 3, 4, 5, 678901, 0⟩

/-- The objects of a bucket by key. -/
abbrev Bucket := List (Text × Object)

namespace Bucket

/-- The object under a key. -/
def get? (bucket : Bucket) (key : Text) : Option Object := bucket.lookup key

/-- Put an object under a key, instead of the one that is there. -/
def put (bucket : Bucket) (key : Text) (object : Object) : Bucket := Entries.put key object bucket

/-- The bucket without a key. -/
def erase (bucket : Bucket) (key : Text) : Bucket := Entries.drop key bucket

/-- The keys. -/
def keys (bucket : Bucket) : List Text := bucket.map Prod.fst

/-- The keys that start with the given text, in code-point order. -/
def keysFrom (bucket : Bucket) (start : Text) : List Text :=
  Text.sort (bucket.keys.filter (fun key => start.isPrefixOf key))

/--
What a walk with a delimiter reports for a key: the key up to and with the
first slash behind the start, or the whole key if there is none.
-/
def stepOf (start key : Text) : Text :=
  let rest := key.drop start.length
  let name := rest.takeWhile (· != Text.slash)
  if name.length < rest.length then start ++ name ++ [Text.slash] else key

/-- What a walk with a delimiter reports for the keys that start with the given text. -/
def stepsFrom (bucket : Bucket) (start : Text) : Names :=
  Names.ofList ((bucket.keysFrom start).map (stepOf start))

/-- Putting an object changes what is found under its key and nowhere else. -/
theorem get?_put (bucket : Bucket) (key other : Text) (object : Object) :
    (bucket.put key object).get? other = if other = key then some object else bucket.get? other := by
  simpa [get?, put] using Entries.lookup_put key other object bucket

/-- Erasing a key changes what is found under it and nowhere else. -/
theorem get?_erase (bucket : Bucket) (key other : Text) :
    (bucket.erase key).get? other = if other = key then none else bucket.get? other := by
  simpa [get?, erase] using Entries.lookup_drop key other bucket

/-- A listing names exactly the keys that start with the text. -/
theorem mem_keysFrom {bucket : Bucket} {start key : Text} :
    key ∈ bucket.keysFrom start ↔ key ∈ bucket.keys ∧ start <+: key := by
  simp [keysFrom, Text.sort, List.mem_mergeSort]

end Bucket

/-- A listing gives at least one key at once unless it is told otherwise. -/
theorem Cloud.usualSize_pos : (0 : Nat) < 1000 := by decide

/-- The object stores: their buckets by kind and name, and how many keys a listing gives at once. -/
structure Cloud where
  buckets : List ((Kind × Text) × Bucket) := []
  pageSize : Nat := 1000
  pageSize_pos : 0 < pageSize := by exact Cloud.usualSize_pos

namespace Cloud

/-- The bucket of a kind under a name. -/
def bucket? (cloud : Cloud) (kind : Kind) (name : Text) : Option Bucket :=
  cloud.buckets.lookup (kind, name)

/-- The cloud with a bucket under a name. -/
def putBucket (cloud : Cloud) (kind : Kind) (name : Text) (bucket : Bucket) : Cloud :=
  { cloud with buckets := Entries.put (kind, name) bucket cloud.buckets }

/-- The cloud with an object under a key; the bucket is made if it is missing. -/
def putObject (cloud : Cloud) (kind : Kind) (name key : Text) (object : Object) : Cloud :=
  cloud.putBucket kind name (Bucket.put ((cloud.bucket? kind name).getD []) key object)

/-- The cloud without a key. -/
def eraseObject (cloud : Cloud) (kind : Kind) (name key : Text) : Cloud :=
  match cloud.bucket? kind name with
  | none => cloud
  | some bucket => cloud.putBucket kind name (bucket.erase key)

/-- Another page size; none of zero keys. -/
def withPageSize (cloud : Cloud) (size : Nat) : Cloud :=
  { cloud with pageSize := max 1 size, pageSize_pos := by omega }

/-- Putting a bucket changes what is found under its kind and name and nowhere else. -/
theorem bucket?_putBucket (cloud : Cloud) (kind other : Kind) (name otherName : Text)
    (bucket : Bucket) :
    (cloud.putBucket kind name bucket).bucket? other otherName =
      if other = kind ∧ otherName = name then some bucket else cloud.bucket? other otherName := by
  simpa [bucket?, putBucket] using
    Entries.lookup_put (kind, name) (other, otherName) bucket cloud.buckets

end Cloud

end ArtifactDepot
