import ArtifactDepot.Proofs.Reading

/-!
# What cleaning makes of an S3 path

A path is searched for its scheme and for a transport at any position, and
what precedes them is cut off.  The clean paths are those that cleaning leaves
alone, and they can be told by their shape (`IsClean`): nothing in front of
their names can be found as a scheme or a transport again.  A clean path
always names a bucket, so a path can be read exactly if it can be cleaned.
-/

namespace ArtifactDepot.S3

open Text (slash)

variable {path text : Text}

/-- An optional scheme, an optional transport, and at least one name. -/
def IsClean (text : Text) : Prop :=
  ∃ scheme ∈ [[], Kind.s3.scheme],
    ∃ front ∈ [[], Transport.plain.scheme, Transport.secure.scheme],
      ∃ names, names ≠ [] ∧ Text.Solid names ∧ text = scheme ++ front ++ Text.join names

/-- The clean texts are those of cleaned paths that hold names. -/
theorem isClean_iff : IsClean text ↔
    ∃ cleaned : Cleaned, cleaned.parts ≠ [] ∧ Text.Solid cleaned.parts ∧ text = cleaned.path := by
  constructor
  · rintro ⟨scheme, hscheme, front, hfront, names, hne, hnames, rfl⟩
    obtain ⟨hasScheme, rfl⟩ : ∃ hasScheme : Bool,
        scheme = if hasScheme then Kind.s3.scheme else [] := by
      simp only [List.mem_cons, List.not_mem_nil, or_false] at hscheme
      rcases hscheme with rfl | rfl
      · exact ⟨false, rfl⟩
      · exact ⟨true, rfl⟩
    obtain ⟨transport, rfl⟩ : ∃ transport : Option Transport,
        front = (transport.map Transport.scheme).getD [] := by
      simp only [List.mem_cons, List.not_mem_nil, or_false] at hfront
      rcases hfront with rfl | rfl | rfl
      · exact ⟨none, rfl⟩
      · exact ⟨some .plain, rfl⟩
      · exact ⟨some .secure, rfl⟩
    exact ⟨⟨hasScheme, transport, names⟩, hne, hnames, rfl⟩
  · rintro ⟨⟨hasScheme, transport, names⟩, hne, hnames, rfl⟩
    refine ⟨if hasScheme then Kind.s3.scheme else [], ?_,
      (transport.map Transport.scheme).getD [], ?_, names, hne, hnames, rfl⟩
    · cases hasScheme <;> simp
    · rcases transport with _ | _ | _ <;> simp

/-- What cleaning yields is clean. -/
theorem isClean_of_clean (h : clean path = .ok text) : IsClean text := by
  obtain ⟨cleaned, hcleaned, rfl⟩ := map_ok_iff.1 h
  obtain ⟨hne, hparts⟩ := Cleaned.ofPath_ok hcleaned
  exact isClean_iff.2 ⟨cleaned, hne, hparts, rfl⟩

/-- Cleaning leaves exactly the clean texts alone. -/
theorem clean_eq_self_iff : clean text = .ok text ↔ IsClean text := by
  refine ⟨isClean_of_clean, fun h => ?_⟩
  obtain ⟨cleaned, hne, hparts, rfl⟩ := isClean_iff.1 h
  rw [clean, Cleaned.ofPath_path hne hparts]
  rfl

/-- A clean text ends in a name. -/
theorem IsClean.closed (h : IsClean text) : Path.endsOpen text = false := by
  obtain ⟨cleaned, hne, hparts, rfl⟩ := isClean_iff.1 h
  exact (isRoot_cleaned hne hparts).2

/-- A clean text begins with the name of a bucket, though the transport may be taken for it. -/
theorem IsClean.bucket_ne_nil (h : IsClean text) :
    (addressOf (Kind.s3.strip text)).bucket ≠ [] := by
  obtain ⟨cleaned, hne, hparts, rfl⟩ := isClean_iff.1 h
  cases htransport : cleaned.transport with
  | some transport => exact List.ne_nil_of_mem (colon_of_transport htransport)
  | none =>
      obtain ⟨first, others, hcons⟩ := List.exists_cons_of_ne_nil hne
      rw [strip_cleaned hparts htransport, hcons]
      rw [hcons] at hparts
      rw [addressOf, (Text.cut_join hparts.head.2 others).1]
      exact hparts.head.1

/-- What can be cleaned can be read. -/
theorem exists_parse_of_clean (h : clean path = .ok text) :
    ∃ address, parse path = .ok address := by
  refine ⟨_, parse_ok_iff.2 ⟨text, h, ?_, rfl⟩⟩
  cases hendpoint : Endpoint.ofPath? text with
  | none => exact (isClean_of_clean h).bucket_ne_nil
  | some endpoint =>
      obtain ⟨spelling, -, -, rfl⟩ := Endpoint.ofPath?_eq_some_iff.1 hendpoint
      exact spelling.bucket_free.1

/-- Reading fails where cleaning does, with the same fault. -/
theorem parse_error_iff {fault : Fault} :
    parse path = .error fault ↔ clean path = .error fault := by
  cases hclean : clean path with
  | error problem => simp [parse, hclean, bind, Except.bind]
  | ok text =>
      obtain ⟨address, haddress⟩ := exists_parse_of_clean hclean
      simp [haddress]

/--
Cleaning is idempotent and its results are canonical: they are the clean texts, which are the texts
that cleaning leaves alone, and none of them ends in a separator.  A path that can be cleaned always
names a bucket, so reading fails exactly where cleaning does and never for want of a bucket.
-/
theorem clean_canonical (path : Text) :
    (∀ text, clean path = .ok text →
      clean text = .ok text ∧ ¬ [slash] <:+ text ∧ IsClean text) ∧
    (clean path = .ok path ↔ IsClean path) ∧
    (∀ fault, parse path = .error fault ↔ clean path = .error fault) ∧
    parse path ≠ .error (.noBucket path) := by
  refine ⟨fun text h => ?_, clean_eq_self_iff, fun fault => parse_error_iff, fun h => ?_⟩
  · have hclean := isClean_of_clean h
    refine ⟨clean_eq_self_iff.2 hclean, ?_, hclean⟩
    rw [← List.isSuffixOf_iff_suffix, Bool.not_eq_true]
    exact hclean.closed
  · have herror := parse_error_iff.1 h
    unfold clean at herror
    have hcleaned := map_error_iff.1 herror
    unfold Cleaned.ofPath at hcleaned
    dsimp only at hcleaned
    split at hcleaned
    · cases hcleaned
    · cases hcleaned

example : clean "x/s3://s3://http:///b//k/".toList = .ok "s3://http://b/k".toList := by rfl

end ArtifactDepot.S3
