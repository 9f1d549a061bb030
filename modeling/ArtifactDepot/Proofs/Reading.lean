import ArtifactDepot.Proofs.Children

/-!
# Canonical paths

The canonical form of a path is read by the parser that has read the path.
For S3 this is the point: the text is cleaned and searched for an endpoint
once more, and neither may find in it what was not there
(`Backend.normalize_retracts`).
-/

namespace ArtifactDepot

open Text (slash)

/-! ## S3 -/

namespace S3

variable {path : Text} {address : Address}

/-- A text is the address that is read from it, unless it ends in a separator. -/
theorem path_addressOf {rest : Text} (hclosed : Path.endsOpen rest = false) :
    (addressOf rest).path = Kind.s3.scheme ++ rest := by
  obtain ⟨bucket, tail, rfl, hbucket, htail⟩ := Text.exists_cut rest
  have htake : (bucket ++ tail).takeWhile (· != slash) = bucket := by
    refine Text.takeWhile_name hbucket (htail.imp_right ?_)
    rintro ⟨others, rfl⟩
    rfl
  have hdrop : (bucket ++ tail).drop (bucket.length + 1) = tail.drop 1 := by
    rw [← List.drop_drop, List.drop_left]
  rw [addressOf, htake, hdrop, Address.path]
  rcases htail with rfl | ⟨key, rfl⟩
  · simp
  · have hkey : key ≠ [] := by
      rintro rfl
      rw [Path.endsOpen_concat] at hclosed
      cases hclosed
    simp [hkey]

/-- A path that starts with the scheme is cleaned to one that does so and is clean. -/
theorem clean_of_scheme {text : Text} (hscheme : Kind.s3.scheme <+: path)
    (h : clean path = .ok text) :
    clean text = .ok text ∧ Kind.s3.scheme <+: text ∧ Path.endsOpen text = false := by
  obtain ⟨cleaned, hcleaned, rfl⟩ := map_ok_iff.1 h
  obtain ⟨hne, hparts⟩ := Cleaned.ofPath_ok hcleaned
  have hhas : cleaned.hasScheme = true := by
    obtain ⟨rest, rfl⟩ := hscheme
    simp only [Cleaned.ofPath, Text.afterFirst?_append (show Kind.s3.scheme ≠ [] by decide)]
      at hcleaned
    split at hcleaned
    · cases hcleaned
    · cases hcleaned
      rfl
  refine ⟨?_, ?_, (isRoot_cleaned hne hparts).2⟩
  · rw [clean, Cleaned.ofPath_path hne hparts]
    rfl
  · rw [Cleaned.path, hhas, if_pos rfl, List.append_assoc]
    exact List.prefix_append _ _

/--
The path of what was read is read in the same way, and it names no endpoint.  An endpoint that was
read is gone with its host.  Where none was read the path is the clean one that was searched.
-/
theorem parse_normal (hscheme : Kind.s3.scheme <+: path) (h : parse path = .ok address) :
    parse address.path = .ok address ∧ endpointUrl address.path = .ok none := by
  obtain ⟨text, hclean, hbucket, rfl⟩ := parse_ok_iff.1 h
  cases hendpoint : Endpoint.ofPath? text with
  | some endpoint =>
      obtain ⟨spelling, -, -, rfl⟩ := Endpoint.ofPath?_eq_some_iff.1 hendpoint
      have hfree := spelling.bucket_free
      have hcolon : ':' ∉ spelling.bucket := fun hmem =>
        absurd (spelling.bucket_passes.2 _ hmem) (by decide)
      have hsolid : Text.Solid (spelling.bucket :: spelling.names) :=
        (Text.Solid.singleton hfree).append spelling.names_solid
      have hpath : Address.path ⟨spelling.bucket, Text.join spelling.names⟩ =
          Kind.s3.scheme ++ Text.join (spelling.bucket :: spelling.names) :=
        Path.ofKey_join _ _ spelling.names_solid
      simp only [Option.elim_some, Endpoint.Spelling.endpoint, hpath]
      refine ⟨parse_join hfree hcolon spelling.names_solid, ?_⟩
      rw [endpointUrl, clean_join (List.cons_ne_nil _ _) hsolid]
      simp only [Except.map, Endpoint.ofPath?_join hcolon hsolid, Option.map_none]
  | none =>
      obtain ⟨hagain, ⟨rest, rfl⟩, hclosed⟩ := clean_of_scheme hscheme hclean
      rw [hendpoint, Option.elim_none, Kind.strip_scheme_append] at hbucket
      rw [Option.elim_none, Kind.strip_scheme_append,
        path_addressOf (Path.endsOpen_of_suffix (List.suffix_append _ rest) hclosed)]
      refine ⟨parse_ok_iff.2 ⟨_, hagain, hbucket, ?_⟩, ?_⟩
      · rw [hendpoint, Option.elim_none, Kind.strip_scheme_append]
      · rw [endpointUrl, hagain, Except.map, hendpoint]
        rfl

end S3

/-! ## All object stores -/

/-- The path of what was read is read in the same way. -/
theorem Gcs.parse_normal {path : Text} {address : Gcs.Address} (h : Gcs.parse path = .ok address) :
    Gcs.parse address.path = .ok address := by
  obtain ⟨bucket, object⟩ := address
  obtain ⟨hbucket, parts, hparts, hobject⟩ := Gcs.parse_ok h
  dsimp only at hbucket hobject
  subst hobject
  have hpath : Gcs.Address.path ⟨bucket, Text.join parts⟩ =
      Kind.gcs.scheme ++ Text.join (bucket :: parts) := Path.ofKey_join _ _ hparts
  rw [hpath]
  exact Gcs.parse_join hbucket hparts

namespace Backend

/-- What is read from a path: a bucket and a key in it, and for Azure the host before them. -/
structure Reading where
  host : Option Text
  bucket : Text
  key : Text
  deriving DecidableEq, Repr

/-- All that the parser of a kind reads from a path; a local path is its own key. -/
def read (kind : Kind) (path : Text) : Except Fault Reading :=
  match kind with
  | .disk => .ok ⟨none, [], path⟩
  | .gcs => (Gcs.parse path).map fun address => ⟨none, address.bucket, address.object⟩
  | .s3 => (S3.parse path).map fun address => ⟨none, address.bucket, address.key⟩
  | .azure =>
      (Azure.parse path).map fun address => ⟨some address.host, address.container, address.blob⟩

/-- What makes a path the canonical one among those that are read in a certain way. -/
structure IsNormal (kind : Kind) (reading : Reading) (normal : Text) : Prop where
  scheme : kind.scheme <+: normal
  read_eq : read kind normal = .ok reading
  closed : Path.endsOpen normal = false
  fixed : normalize kind normal = .ok normal
  noEndpoint : kind = .s3 → S3.endpointUrl normal = .ok none

variable {kind : Kind} {path : Text} {reading : Reading}

/--
Every path that starts with its scheme and can be read has a canonical form.  This is read in the
same way, it starts with the scheme and does not end in a separator, it is its own canonical form,
and it leads to no endpoint.
-/
theorem normalize_retracts (hkind : kind ≠ .disk) (hscheme : kind.scheme <+: path)
    (hread : read kind path = .ok reading) :
    ∃ normal, normalize kind path = .ok normal ∧ IsNormal kind reading normal := by
  have hclosed {normal : Text} (h : normalize kind path = .ok normal) :
      Path.endsOpen normal = false := (isRoot_of_normalize hkind h).2
  cases kind with
  | disk => exact absurd rfl hkind
  | gcs =>
      obtain ⟨address, hparse, rfl⟩ := map_ok_iff.1 hread
      have hnormal : normalize .gcs path = .ok address.path := map_ok_iff.2 ⟨_, hparse, rfl⟩
      have hagain := Gcs.parse_normal hparse
      refine ⟨_, hnormal, ?_, map_ok_iff.2 ⟨_, hagain, rfl⟩, hclosed hnormal,
        map_ok_iff.2 ⟨_, hagain, rfl⟩, nofun⟩
      simp [Gcs.Address.path, List.append_assoc]
  | s3 =>
      obtain ⟨address, hparse, rfl⟩ := map_ok_iff.1 hread
      have hnormal : normalize .s3 path = .ok address.path := map_ok_iff.2 ⟨_, hparse, rfl⟩
      obtain ⟨hagain, hendpoint⟩ := S3.parse_normal hscheme hparse
      refine ⟨_, hnormal, ?_, map_ok_iff.2 ⟨_, hagain, rfl⟩, hclosed hnormal,
        map_ok_iff.2 ⟨_, hagain, rfl⟩, fun _ => hendpoint⟩
      simp [S3.Address.path, List.append_assoc]
  | azure =>
      obtain ⟨address, hparse, rfl⟩ := map_ok_iff.1 hread
      have hnormal : normalize .azure path = .ok address.path := map_ok_iff.2 ⟨_, hparse, rfl⟩
      have hagain := Azure.parse_path (Azure.plain_of_parse hparse)
      refine ⟨_, hnormal, ?_, map_ok_iff.2 ⟨_, hagain, rfl⟩, hclosed hnormal,
        map_ok_iff.2 ⟨_, hagain, rfl⟩, nofun⟩
      simp [Azure.Address.path, List.append_assoc]

/-- An endpoint is dropped, and so are the separators around what it serves. -/
theorem normalize_retracts_endpoint :
    ∃ normal, normalize .s3 "s3://x/s3:///https:///localhost:9000//b//res/".toList = .ok normal ∧
      IsNormal .s3 ⟨none, "b".toList, "res".toList⟩ normal :=
  normalize_retracts (by decide) (by decide) rfl

end Backend

end ArtifactDepot
