import ArtifactDepot.Proofs.Traced
import ArtifactDepot.Proofs.Below
import ArtifactDepot.Backend.Operations

/-!
# Asking an object store

Whatever is asked of an object store, and whatever it answers, the site
changes only in what it records.  A question keeps every relation that is kept
by requests without a transfer, and so does a listing inside its span;
reading transfers content, and an upload changes the stores.  With the span
listings are silent (`Backend.keeps_contents`), and reading is recorded
(`Backend.keeps_readBytes`).
-/

namespace ArtifactDepot

open ArtifactDepot.Action

/-! ## Relations that requests keep -/

namespace Action

/-- The relation is kept by every request. -/
class KeepsCalls (K : Site → Site → Prop) : Prop where
  perform : ∀ call, Keeps K (perform call)

/-- The relation is kept by every request that transfers nothing. -/
class KeepsQuestions (K : Site → Site → Prop) : Prop where
  perform : ∀ {call : Call}, call.isTransfer = false → Keeps K (perform call)

/-- The relation is kept by every change of the object stores. -/
class KeepsStores (K : Site → Site → Prop) : Prop where
  change : ∀ (site : Site) (cloud : Cloud), K site { site with cloud }

instance : KeepsCalls Site.Recorded := ⟨keeps_perform⟩

instance : KeepsQuestions Site.Silent := ⟨keeps_perform_silent⟩

instance {K : Site → Site → Prop} [KeepsCalls K] : KeepsQuestions K :=
  ⟨fun _ => KeepsCalls.perform _⟩

end Action

section Stores

variable {K : Site → Site → Prop} [IsPreorder Site K] [KeepsQuestions K]

/-! ## Cloud Storage -/

namespace Gcs

/-- A path is refused for want of a bucket only. -/
theorem parse_error {path : Text} {fault : Fault} (h : parse path = .error fault) :
    fault = .noBucket path := by
  unfold parse at h
  dsimp only at h
  split at h
  · cases h
    rfl
  · cases h

theorem Client.keeps_lookupBucket (name : Text) : Keeps K (lookupBucket name) :=
  keeps_bind (KeepsQuestions.perform rfl) fun _ => keeps_bind keeps_get fun _ => keeps_pure _

theorem Client.keeps_getBlob (bucket name : Text) : Keeps K (getBlob bucket name) :=
  keeps_bind (KeepsQuestions.perform rfl) fun _ => keeps_bind keeps_get fun _ => keeps_pure _

theorem Client.keeps_listBlobs (bucket start : Text) (most : Option Nat) :
    Keeps K (listBlobs bucket start most) := by
  refine keeps_bind (KeepsQuestions.perform rfl) fun _ => keeps_bind keeps_get fun site => ?_
  cases site.cloud.bucket? .gcs bucket with
  | none => exact keeps_throw _
  | some found => exact keeps_pure _

omit [KeepsQuestions K] in
theorem Client.keeps_download [KeepsCalls K] (bucket name : Text) (object : Object) :
    Keeps K (download bucket name object) :=
  keeps_bind (KeepsCalls.perform _) fun _ => keeps_pure _

theorem keeps_isDirectory (path : Text) : Keeps K (isDirectory path) := by
  refine keeps_bind (keeps_ofRule _) fun address => keeps_during ?_
  refine keeps_bind (Client.keeps_lookupBucket _) fun found => ?_
  have hlist : Keeps K (if address.object.isEmpty then pure true else do
      let found ← Client.listBlobs address.bucket (Key.asDirectory address.object) (some 1)
      return !found.isEmpty) :=
    keeps_ite (keeps_pure _) (keeps_bind (Client.keeps_listBlobs _ _ _) fun _ => keeps_pure _)
  exact keeps_ite (keeps_bind (keeps_throw _) fun _ => hlist) hlist

theorem keeps_isPresent (path : Text) : Keeps K (isPresent path) := by
  refine keeps_bind (keeps_ofRule _) fun address => ?_
  have hrest (isObject : Bool) :
      Keeps K (if isObject then pure true else isDirectory path) :=
    keeps_ite (keeps_pure _) (keeps_isDirectory path)
  refine keeps_ite (keeps_bind (keeps_pure _) hrest) (keeps_bind (keeps_during ?_) hrest)
  exact keeps_bind (Client.keeps_getBlob _ _) fun _ => keeps_pure _

theorem contents_traced (path : Text) :
    ∃ body, contents path = Trace.traced .list .gcs path body ∧ Keeps K body := by
  refine ⟨_, rfl, keeps_bind (keeps_ofRule _) fun address => ?_⟩
  exact keeps_bind (keeps_during (Client.keeps_listBlobs _ _ _)) fun _ => keeps_pure _

theorem readBytes_traced [KeepsCalls K] (path : Text) :
    ∃ body, readBytes path = Trace.traced .read .gcs path body ∧ Keeps K body := by
  refine ⟨_, rfl, keeps_bind (keeps_ofRule _) fun address => keeps_during ?_⟩
  refine keeps_ite (keeps_bind (keeps_pure _) ?_)
    (keeps_bind (Client.keeps_getBlob _ _) ?_)
  all_goals
    intro blob
    cases blob with
    | none => exact keeps_throw _
    | some object => exact Client.keeps_download _ _ _

end Gcs

/-! ## S3 -/

namespace S3

/-- A path is refused for want of a bucket, or of anything behind its scheme. -/
theorem parse_error {path : Text} {fault : Fault} (h : parse path = .error fault) :
    fault = .noBucket path ∨ ∃ rest, fault = .onlySlashes rest path := by
  unfold parse clean at h
  cases hclean : Cleaned.ofPath path with
  | error problem =>
      rw [hclean] at h
      cases h
      unfold Cleaned.ofPath at hclean
      dsimp only at hclean
      split at hclean
      · cases hclean
        exact Or.inr ⟨_, rfl⟩
      · cases hclean
  | ok cleaned =>
      rw [hclean] at h
      simp only [Except.map, bind, Except.bind] at h
      -- With an endpoint and without one, only a missing bucket is refused.
      split at h
      all_goals
        split at h
        · cases h
          exact Or.inl rfl
        · cases h

omit [KeepsQuestions K] in
theorem Client.keeps_bucket (name : Text) (code operation : String) :
    Keeps K (bucket name code operation) := by
  refine keeps_bind keeps_get fun site => ?_
  cases site.cloud.bucket? .s3 name with
  | none => exact keeps_throw _
  | some found => exact keeps_pure _

theorem Client.keeps_headBucket (name : Text) : Keeps K (headBucket name) :=
  keeps_bind (KeepsQuestions.perform rfl) fun _ => keeps_discard (keeps_bucket _ _ _)

theorem Client.keeps_listObjects (name start : Text) (most token : Option Nat) :
    Keeps K (listObjects name start most token) :=
  keeps_bind (KeepsQuestions.perform rfl) fun _ =>
    keeps_bind (keeps_bucket _ _ _) fun _ => keeps_bind keeps_get fun _ => keeps_pure _

theorem Client.keeps_headObject (name key : Text) : Keeps K (headObject name key) := by
  refine keeps_bind (KeepsQuestions.perform rfl) fun _ => ?_
  refine keeps_bind (keeps_bucket _ _ _) fun found => ?_
  cases found.get? key with
  | none => exact keeps_throw _
  | some object => exact keeps_pure _

omit [KeepsQuestions K] in
theorem Client.keeps_getObject [KeepsCalls K] (name key : Text) : Keeps K (getObject name key) := by
  refine keeps_bind (KeepsCalls.perform _) fun _ => ?_
  refine keeps_bind (keeps_bucket _ _ _) fun found => ?_
  cases found.get? key with
  | none => exact keeps_throw _
  | some object => exact keeps_pure _

omit [KeepsQuestions K] in
theorem Client.keeps_readBody [KeepsCalls K] (name key : Text) (content : ByteArray) :
    Keeps K (readBody name key content) :=
  keeps_bind (KeepsCalls.perform _) fun _ => keeps_pure _

theorem keeps_isDirectory (path : Text) : Keeps K (isDirectory path) := by
  refine keeps_bind (keeps_ofRule _) fun address => ?_
  refine keeps_bind (keeps_during (Client.keeps_headBucket _)) fun _ => ?_
  refine keeps_ite (keeps_pure _) ?_
  exact keeps_bind (keeps_during (Client.keeps_listObjects _ _ _ _)) fun _ => keeps_pure _

theorem keeps_headObject? (path : Text) (address : Address) :
    Keeps K (headObject? path address) := by
  refine keeps_recover ?_ fun failure => ?_
  · exact keeps_bind (Client.keeps_headObject _ _) fun _ => keeps_pure _
  · cases failure with
    | fault fault => exact keeps_throw _
    | incident incident =>
        exact keeps_bind (keeps_ofCall _) fun _ => keeps_ite (keeps_pure _) (keeps_throw _)

theorem keeps_isPresent (path : Text) : Keeps K (isPresent path) := by
  refine keeps_bind (keeps_isDirectory path) fun found => keeps_ite (keeps_pure _) ?_
  refine keeps_bind (keeps_ofRule _) fun address => ?_
  exact keeps_bind (keeps_headObject? _ _) fun _ => keeps_pure _

theorem keeps_gather (bucket directory : Text) (bound : Nat) (token : Option Nat)
    (found : Names) : Keeps K (gather bucket directory bound token found) := by
  induction bound generalizing token found with
  | zero => exact keeps_pure _
  | succ bound ih =>
      refine keeps_bind (Client.keeps_listObjects _ _ _ _) fun page => ?_
      cases hnext : page.next? with
      | none =>
          dsimp only
          exact keeps_pure _
      | some next =>
          dsimp only
          exact ih _ _

theorem contents_traced (path : Text) :
    ∃ body, contents path = Trace.traced .list .s3 path body ∧ Keeps K body := by
  refine ⟨_, rfl, keeps_bind (keeps_ofRule _) fun address => ?_⟩
  refine keeps_bind (keeps_bind keeps_get fun _ => keeps_pure _) fun bound => ?_
  exact keeps_during (keeps_gather _ _ _ _ _)

omit [KeepsQuestions K] in
theorem keeps_fetch [KeepsCalls K] (path : Text) (address : Address) :
    Keeps K (fetch path address) := by
  refine keeps_recover (Client.keeps_getObject _ _) fun failure => ?_
  cases failure with
  | fault fault => exact keeps_throw _
  | incident incident =>
      exact keeps_bind (keeps_ofCall _) fun _ => keeps_ite (keeps_throw _) (keeps_throw _)

omit [KeepsQuestions K] in
theorem readBytes_traced [KeepsCalls K] (path : Text) :
    ∃ body, readBytes path = Trace.traced .read .s3 path body ∧ Keeps K body := by
  refine ⟨_, rfl, keeps_bind (keeps_ofRule _) fun address => ?_⟩
  exact keeps_bind (keeps_fetch _ _) fun body => keeps_during (Client.keeps_readBody _ _ _)

end S3

/-! ## Azure -/

namespace Azure

/-- A path is refused as malformed only. -/
theorem parse_error {path : Text} {fault : Fault} (h : parse path = .error fault) :
    fault = .malformedAzurePath path := by
  unfold parse at h
  split at h
  · cases h
  · cases h
    rfl

omit [KeepsQuestions K] in
theorem Client.keeps_container? (name : Text) : Keeps K (container? name) :=
  keeps_bind keeps_get fun _ => keeps_pure _

theorem Client.keeps_containerExists (name : Text) :
    Keeps K (containerExists name) :=
  keeps_bind (KeepsQuestions.perform rfl) fun _ => keeps_bind (keeps_container? _) fun _ => keeps_pure _

theorem Client.keeps_walkBlobs (container : Text) (start : Option Text) :
    Keeps K (walkBlobs container start) := by
  refine keeps_bind (KeepsQuestions.perform rfl) fun _ => ?_
  refine keeps_bind (keeps_container? _) fun found => ?_
  cases found with
  | none => exact keeps_throw _
  | some found => exact keeps_pure _

omit [KeepsQuestions K] in
theorem Client.keeps_blob (container name : Text) : Keeps K (blob container name) := by
  refine keeps_bind (keeps_container? _) fun found => ?_
  cases found.bind (·.get? name) with
  | none => exact keeps_throw _
  | some object => exact keeps_pure _

theorem Client.keeps_blobExists (container name : Text) :
    Keeps K (blobExists container name) :=
  keeps_bind (KeepsQuestions.perform rfl) fun _ => keeps_bind (keeps_container? _) fun _ => keeps_pure _

omit [KeepsQuestions K] in
theorem Client.keeps_downloadBlob [KeepsCalls K] (container name : Text) :
    Keeps K (downloadBlob container name) :=
  keeps_bind (KeepsCalls.perform _) fun _ => keeps_bind (keeps_blob _ _) fun _ => keeps_pure _

omit [KeepsQuestions K] in
theorem Client.keeps_readAll [KeepsCalls K] (container name : Text) (content : ByteArray) :
    Keeps K (readAll container name content) :=
  keeps_bind (KeepsCalls.perform _) fun _ => keeps_pure _

theorem keeps_isDirectory (path : Text) : Keeps K (isDirectory path) := by
  refine keeps_bind (keeps_ofRule _) fun address => keeps_during ?_
  refine keeps_ite (Client.keeps_containerExists _) ?_
  exact keeps_bind (Client.keeps_walkBlobs _ _) fun _ => keeps_pure _

theorem keeps_isPresent (path : Text) : Keeps K (isPresent path) := by
  refine keeps_bind (keeps_ofRule _) fun address => ?_
  have hrest (isBlob : Bool) :
      Keeps K (if isBlob then pure true else isDirectory path) :=
    keeps_ite (keeps_pure _) (keeps_isDirectory path)
  exact keeps_ite (keeps_bind (keeps_pure _) hrest)
    (keeps_bind (keeps_during (Client.keeps_blobExists _ _)) hrest)

theorem keeps_walk (path : Text) : Keeps K (walk path) := by
  refine keeps_bind (keeps_ofRule _) fun address => keeps_during ?_
  exact keeps_bind (Client.keeps_walkBlobs _ _) fun _ => keeps_pure _

theorem contents_traced (path : Text) :
    ∃ body, contents path = Trace.traced .list .azure path body ∧ Keeps K body :=
  ⟨_, rfl, keeps_bind (keeps_walk path) fun _ => keeps_pure _⟩

omit [KeepsQuestions K] in
theorem readBytes_traced [KeepsCalls K] (path : Text) :
    ∃ body, readBytes path = Trace.traced .read .azure path body ∧ Keeps K body := by
  refine ⟨_, rfl, keeps_bind (keeps_ofRule _) fun address => ?_⟩
  have hfetch : Keeps K (orMissing .file .fetchBlob path do
      let content ← Client.downloadBlob address.container address.blob
      Client.readAll address.container address.blob content) :=
    keeps_wrapping (keeps_bind (Client.keeps_downloadBlob _ _) fun _ => Client.keeps_readAll _ _ _)
  exact keeps_ite (keeps_bind (keeps_throw _) fun _ => hfetch) hfetch

omit [KeepsQuestions K] in
theorem Client.keeps_upload [KeepsCalls K] [KeepsStores K] (container name : Text)
    (content : ByteArray) : Keeps K (upload container name content) := by
  refine keeps_bind (KeepsCalls.perform _) fun _ => keeps_bind (keeps_container? _) fun found => ?_
  cases found with
  | none => exact keeps_throw _
  | some objects => exact keeps_modify fun site => KeepsStores.change site _

omit [KeepsQuestions K] in
theorem writeText_traced [KeepsCalls K] [KeepsStores K] (path : Text) (text : String) :
    ∃ body, writeText path text = Trace.traced .write .azure path body ∧ Keeps K body := by
  refine ⟨_, rfl, keeps_bind (keeps_ofRule _) fun address => ?_⟩
  have hupload : Keeps K
      (during .uploadBlob path (Client.upload address.container address.blob text.toUTF8)) :=
    keeps_during (Client.keeps_upload _ _ _)
  exact keeps_ite (keeps_bind (keeps_throw _) fun _ => hupload) hupload

end Azure

/-! ## All object stores -/

namespace Backend

variable {kind : Kind} (hkind : kind ≠ .disk) (path : Text)

include hkind

/-- Asking whether something is there transfers nothing. -/
theorem keeps_isPresent : Keeps K (isPresent kind path) := by
  cases kind with
  | disk => exact absurd rfl hkind
  | gcs => exact Gcs.keeps_isPresent path
  | s3 => exact S3.keeps_isPresent path
  | azure => exact Azure.keeps_isPresent path

/-- Asking whether something is a directory transfers nothing. -/
theorem keeps_isDirectory : Keeps K (isDirectory kind path) := by
  cases kind with
  | disk => exact absurd rfl hkind
  | gcs => exact Gcs.keeps_isDirectory path
  | s3 => exact S3.keeps_isDirectory path
  | azure => exact Azure.keeps_isDirectory path

/-- A directory is listed inside a span. -/
theorem contents_traced :
    ∃ body, contents kind path = Trace.traced .list kind path body ∧ Keeps K body := by
  cases kind with
  | disk => exact absurd rfl hkind
  | gcs => exact Gcs.contents_traced path
  | s3 => exact S3.contents_traced path
  | azure => exact Azure.contents_traced path

/-- An object is read inside a span. -/
theorem readBytes_traced [KeepsCalls K] :
    ∃ body, readBytes kind path = Trace.traced .read kind path body ∧ Keeps K body := by
  cases kind with
  | disk => exact absurd rfl hkind
  | gcs => exact Gcs.readBytes_traced path
  | s3 => exact S3.readBytes_traced path
  | azure => exact Azure.readBytes_traced path

/-- Listing a directory transfers nothing. -/
theorem keeps_contents : Keeps Site.Silent (contents kind path) := by
  obtain ⟨body, hbody, hkept⟩ := contents_traced (K := Site.Silent) hkind path
  rw [hbody]
  exact Trace.keeps_traced id hkept

/-- Reading an object is only recorded. -/
theorem keeps_readBytes : Keeps Site.Recorded (readBytes kind path) := by
  obtain ⟨body, hbody, hkept⟩ := readBytes_traced (K := Site.Recorded) hkind path
  rw [hbody]
  exact Trace.keeps_traced Site.Silent.toRecorded hkept

end Backend

end Stores

/-! ## Names in listings -/

/-- The children that keys have in a directory are solid names. -/
theorem Key.solid_children (keys : List Text) (directory : Text) :
    Text.Solid (Names.ofList (keys.filterMap (child? · directory))).toList := by
  intro name hname
  have hmem : name ∈ keys.filterMap (child? · directory) := Names.mem_ofList.1 hname
  obtain ⟨key, -, hchild⟩ := List.mem_filterMap.1 hmem
  exact child?_solid hchild

/-- An action of which nothing is asked ends as nothing is known. -/
theorem Action.ends_trivial {α : Type} (action : Action α) :
    Ends (fun _ => True) action (fun _ _ => True) (fun _ => True) :=
  ends_of_cases (fun _ _ => trivial) (fun _ _ => trivial)

theorem Gcs.solid_contents (path : Text) :
    Ends (fun _ => True) (contents path) (fun names _ => Text.Solid names.toList)
      (fun _ => True) := by
  refine Trace.ends_traced ?_ (fun _ => id) (fun _ => id) (fun _ => id) (fun _ => id)
  apply (ends_trivial _).bind
  intro address
  apply (ends_trivial _).bind
  intro keys
  exact ends_pure fun _ _ => Key.solid_children keys _

theorem S3.solid_gather (bucket directory : Text) (bound : Nat) (token : Option Nat)
    (found : Names) (hfound : Text.Solid found.toList) :
    Ends (fun _ => True) (gather bucket directory bound token found)
      (fun names _ => Text.Solid names.toList) (fun _ => True) := by
  induction bound generalizing token found with
  | zero => exact ends_pure fun _ _ => hfound
  | succ bound ih =>
      apply (ends_trivial _).bind
      intro page
      have hunion : Text.Solid ((Names.ofList (page.keys.filterMap
          (Key.child? · directory))).union found).toList := by
        intro name hname
        rcases Names.mem_union.1 (Names.mem_def.2 hname) with hname | hname
        · exact Key.solid_children page.keys directory name hname
        · exact hfound name hname
      cases hnext : page.next? with
      | none =>
          dsimp only
          exact ends_pure fun _ _ => hunion
      | some next =>
          dsimp only
          exact ih _ _ hunion

theorem S3.solid_contents (path : Text) :
    Ends (fun _ => True) (contents path) (fun names _ => Text.Solid names.toList)
      (fun _ => True) := by
  refine Trace.ends_traced ?_ (fun _ => id) (fun _ => id) (fun _ => id) (fun _ => id)
  apply (ends_trivial _).bind
  intro address
  apply (ends_trivial _).bind
  intro bound
  exact (solid_gather _ _ bound none .empty nofun).during

theorem Azure.solid_contents (path : Text) :
    Ends (fun _ => True) (contents path) (fun names _ => Text.Solid names.toList)
      (fun _ => True) := by
  refine Trace.ends_traced ?_ (fun _ => id) (fun _ => id) (fun _ => id) (fun _ => id)
  have hwalk : Ends (fun _ => True) (walk path)
      (fun children _ => ∀ child ∈ children, child.name ≠ [] ∧ Text.slash ∉ child.name)
      (fun _ => True) := by
    apply (ends_trivial _).bind
    intro address
    apply Ends.during
    apply (ends_trivial _).bind
    intro steps
    apply ends_pure
    intro _ _ child hchild
    obtain ⟨step, -, hstep⟩ := List.mem_filterMap.1 hchild
    obtain ⟨name, hname, rfl⟩ := Option.map_eq_some_iff.1 hstep
    exact Key.child?_solid hname
  apply hwalk.bind
  intro children
  apply ends_pure
  intro _ hchildren name hname
  obtain ⟨child, hchild, rfl⟩ := List.mem_map.1 (Names.mem_ofList.1 hname)
  exact hchildren child hchild

/-- The names in a directory of an object store are solid. -/
theorem Backend.solid_contents {kind : Kind} (hkind : kind ≠ .disk) (path : Text) :
    Ends (fun _ => True) (contents kind path) (fun names _ => Text.Solid names.toList)
      (fun _ => True) := by
  cases kind with
  | disk => exact absurd rfl hkind
  | gcs => exact Gcs.solid_contents path
  | s3 => exact S3.solid_contents path
  | azure => exact Azure.solid_contents path

end ArtifactDepot
