import ArtifactDepot.Text.Basic

/-!
# Storage kinds

The closed set of storage kinds with their names and schemes, and the rule
that tells the kind of a path: the first kind whose scheme starts the path,
and the local disk if there is none.
-/

namespace ArtifactDepot

/-- Where artifacts are stored. -/
inductive Kind where
  | disk
  | gcs
  | s3
  | azure
  deriving DecidableEq, Repr

namespace Kind

/-- Every kind. -/
def all : List Kind := [.disk, .gcs, .s3, .azure]

/-- The kinds with a scheme, in the order in which schemes are tried. -/
def remote : List Kind := [.gcs, .s3, .azure]

/-- The name by which a kind is shown. -/
def name : Kind → String
  | .disk => "LOCAL"
  | .gcs => "GCS"
  | .s3 => "S3"
  | .azure => "AS"

/-- The name that marks a kind in backend descriptions and spans. -/
def label : Kind → String
  | .disk => "local"
  | .gcs => "gcs"
  | .s3 => "s3"
  | .azure => "as"

/-- What a path of this kind starts with; nothing for the local disk. -/
def scheme : Kind → Text
  | .disk => []
  | .gcs => ['g', 's', ':', '/', '/']
  | .s3 => ['s', '3', ':', '/', '/']
  | .azure => ['a', 's', ':', '/', '/']

/-- The member of a credential document that holds the kind's section. -/
def section? : Kind → Option Text
  | .disk => none
  | .gcs => some ['g', 's']
  | .s3 => some ['s', '3']
  | .azure => some ['a', 's']

/-- The optional package that brings the client of a kind. -/
def extra : Kind → String
  | .disk => ""
  | .gcs => "gcs"
  | .s3 => "s3"
  | .azure => "azure"

/-- The module whose absence makes building a client of this kind fail. -/
def clientModule : Kind → String
  | .disk => ""
  | .gcs => "google"
  | .s3 => "boto3"
  | .azure => "azure"

/-- Does building a client from ambient credentials need a concrete path? -/
def needsPath : Kind → Bool
  | .s3 | .azure => true
  | .disk | .gcs => false

/-- The kind of a path; the empty path has none. -/
def ofPath? (path : Text) : Option Kind :=
  if path.isEmpty then none
  else some ((remote.find? (fun kind => kind.scheme.isPrefixOf path)).getD .disk)

/-- The path without the scheme of the kind. -/
def strip (kind : Kind) (path : Text) : Text := Text.withoutPrefix kind.scheme path

/-- The remote kinds are those with a scheme. -/
theorem mem_remote_iff {kind : Kind} : kind ∈ remote ↔ kind.scheme ≠ [] := by
  cases kind <;> decide

/-- A scheme that was put in front of a path is what stripping takes away. -/
@[simp] theorem strip_scheme_append (kind : Kind) (rest : Text) :
    kind.strip (kind.scheme ++ rest) = rest :=
  Text.withoutPrefix_append kind.scheme rest

/-- Local paths have no scheme to strip. -/
@[simp] theorem strip_disk (path : Text) : Kind.disk.strip path = path := by
  simp [strip, scheme, Text.withoutPrefix, Text.afterPrefix?]

end Kind

end ArtifactDepot
