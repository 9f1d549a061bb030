import ArtifactDepot.Proofs.Veil
import ArtifactDepot.Session.Request

/-!
# Operations see neither rules nor log

None of the operations on stores, disk and keyrings looks at the rules or at
the records, none of them looks into a file that it does not read, and none of
them builds or closes a client.  So each of them runs alike under every veil,
which one lemma for each operation says (`Backend.blind_localize` stands at the
end of the longest chain).  What is read from a file, or looked up in a keyring,
is the same up to what the sight of the veil shows.
-/

namespace ArtifactDepot

open ArtifactDepot.Action

variable {α : Type} {sight : Sight} {R : Comparison Site}

section Operations

variable (h : Veil sight R)

include h

/-! ## Cloud Storage -/

namespace Gcs

theorem Client.blind_lookupBucket (name : Text) : Blind R (lookupBucket name) :=
  blind_bind (h.perform rfl rfl rfl) fun _ =>
    h.blind_get_bind (fun hsites => by simp only [hsites.cloud_eq]) fun _ => blind_pure _

theorem Client.blind_getBlob (bucket name : Text) : Blind R (getBlob bucket name) :=
  blind_bind (h.perform rfl rfl rfl) fun _ =>
    h.blind_get_bind (fun hsites => by simp only [hsites.cloud_eq]) fun _ => blind_pure _

theorem Client.blind_listBlobs (bucket start : Text) (most : Option Nat) :
    Blind R (listBlobs bucket start most) := by
  refine blind_bind (h.perform rfl rfl rfl) fun _ =>
    h.blind_get_bind (fun hsites => by simp only [hsites.cloud_eq]) fun site => ?_
  cases site.cloud.bucket? .gcs bucket with
  | none => exact blind_throw _
  | some found => exact blind_pure _

theorem Client.blind_download (bucket name : Text) (object : Object) :
    Blind R (download bucket name object) :=
  blind_bind (h.perform rfl rfl rfl) fun _ => blind_pure _

theorem blind_isDirectory (path : Text) : Blind R (isDirectory path) := by
  refine blind_bind (blind_ofRule _) fun address => blind_during ?_
  refine blind_bind (Client.blind_lookupBucket h _) fun found => ?_
  have hlist : Blind R (if address.object.isEmpty then pure true else do
      let found ← Client.listBlobs address.bucket (Key.asDirectory address.object) (some 1)
      return !found.isEmpty) :=
    blind_ite (blind_pure _) (blind_bind (Client.blind_listBlobs h _ _ _) fun _ => blind_pure _)
  exact blind_ite (blind_bind (blind_throw _) fun _ => hlist) hlist

theorem blind_isPresent (path : Text) : Blind R (isPresent path) := by
  refine blind_bind (blind_ofRule _) fun address => ?_
  have hrest (isObject : Bool) : Blind R (if isObject then pure true else isDirectory path) :=
    blind_ite (blind_pure _) (blind_isDirectory h path)
  refine blind_ite (blind_bind (blind_pure _) hrest) (blind_bind (blind_during ?_) hrest)
  exact blind_bind (Client.blind_getBlob h _ _) fun _ => blind_pure _

theorem blind_modified (path : Text) : Blind R (modified path) := by
  refine blind_bind (blind_isDirectory h path) fun found => blind_ite (blind_pure _) ?_
  refine blind_bind (blind_ofRule _) fun address => ?_
  refine blind_bind (blind_during (Client.blind_getBlob h _ _)) fun blob => ?_
  cases blob with
  | none => exact blind_throw _
  | some object => exact blind_pure _

theorem blind_contents (path : Text) : Blind R (contents path) := by
  refine h.blind_traced (blind_bind (blind_ofRule _) fun address => ?_)
  exact blind_bind (blind_during (Client.blind_listBlobs h _ _ _)) fun _ => blind_pure _

theorem blind_readBytes (path : Text) : Blind R (readBytes path) := by
  refine h.blind_traced (blind_bind (blind_ofRule _) fun address => blind_during ?_)
  refine blind_ite (blind_bind (blind_pure _) ?rest) (blind_bind (Client.blind_getBlob h _ _) ?rest)
  intro blob
  cases blob with
  | none => exact blind_throw _
  | some object => exact Client.blind_download h _ _ _

end Gcs

/-! ## S3 -/

namespace S3

theorem Client.blind_bucket (name : Text) (code operation : String) :
    Blind R (bucket name code operation) := by
  refine h.blind_get_bind (fun hsites => by simp only [hsites.cloud_eq]) fun site => ?_
  cases site.cloud.bucket? .s3 name with
  | none => exact blind_throw _
  | some found => exact blind_pure _

theorem Client.blind_headBucket (name : Text) : Blind R (headBucket name) :=
  blind_bind (h.perform rfl rfl rfl) fun _ => blind_discard (blind_bucket h _ _ _)

theorem Client.blind_listObjects (name start : Text) (most token : Option Nat) :
    Blind R (listObjects name start most token) :=
  blind_bind (h.perform rfl rfl rfl) fun _ => blind_bind (blind_bucket h _ _ _) fun _ =>
    h.blind_get_bind (fun hsites => by simp only [hsites.cloud_eq]) fun _ => blind_pure _

theorem Client.blind_headObject (name key : Text) : Blind R (headObject name key) := by
  refine blind_bind (h.perform rfl rfl rfl) fun _ => blind_bind (blind_bucket h _ _ _) fun found => ?_
  cases found.get? key with
  | none => exact blind_throw _
  | some object => exact blind_pure _

theorem Client.blind_getObject (name key : Text) : Blind R (getObject name key) := by
  refine blind_bind (h.perform rfl rfl rfl) fun _ => blind_bind (blind_bucket h _ _ _) fun found => ?_
  cases found.get? key with
  | none => exact blind_throw _
  | some object => exact blind_pure _

theorem Client.blind_readBody (name key : Text) (content : ByteArray) :
    Blind R (readBody name key content) :=
  blind_bind (h.perform rfl rfl rfl) fun _ => blind_pure _

theorem blind_isDirectory (path : Text) : Blind R (isDirectory path) := by
  refine blind_bind (blind_ofRule _) fun address => ?_
  refine blind_bind (blind_during (Client.blind_headBucket h _)) fun _ => ?_
  refine blind_ite (blind_pure _) ?_
  exact blind_bind (blind_during (Client.blind_listObjects h _ _ _ _)) fun _ => blind_pure _

theorem blind_headObject? (path : Text) (address : Address) :
    Blind R (headObject? path address) := by
  refine blind_recover (blind_bind (Client.blind_headObject h _ _) fun _ => blind_pure _) ?_
  intro failure
  cases failure with
  | fault fault => exact blind_throw _
  | incident incident =>
      exact blind_bind (blind_ofCall _) fun _ => blind_ite (blind_pure _) (blind_throw _)

theorem blind_isPresent (path : Text) : Blind R (isPresent path) := by
  refine blind_bind (blind_isDirectory h path) fun found => blind_ite (blind_pure _) ?_
  refine blind_bind (blind_ofRule _) fun address => ?_
  exact blind_bind (blind_headObject? h _ _) fun _ => blind_pure _

theorem blind_modified (path : Text) : Blind R (modified path) := by
  refine blind_bind (blind_isDirectory h path) fun found => blind_ite (blind_pure _) ?_
  refine blind_bind (blind_ofRule _) fun address => ?_
  refine blind_bind (blind_headObject? h _ _) fun found => ?_
  cases found with
  | none => exact blind_throw _
  | some moment => exact blind_pure _

theorem blind_gather (bucket directory : Text) (bound : Nat) (token : Option Nat)
    (found : Names) : Blind R (gather bucket directory bound token found) := by
  induction bound generalizing token found with
  | zero => exact blind_pure _
  | succ bound ih =>
      refine blind_bind (Client.blind_listObjects h _ _ _ _) fun page => ?_
      dsimp only
      cases page.next? with
      | none => exact blind_pure _
      | some next => exact ih _ _

theorem blind_contents (path : Text) : Blind R (contents path) := by
  refine h.blind_traced (blind_bind (blind_ofRule _) fun address => ?_)
  have hbound : Blind R (pageBound address.bucket) :=
    h.blind_get_bind (fun hsites => by simp only [hsites.cloud_eq]) fun _ => blind_pure _
  exact blind_bind hbound fun _ => blind_during (blind_gather h _ _ _ _ _)

theorem blind_fetch (path : Text) (address : Address) : Blind R (fetch path address) := by
  refine blind_recover (Client.blind_getObject h _ _) fun failure => ?_
  cases failure with
  | fault fault => exact blind_throw _
  | incident incident =>
      exact blind_bind (blind_ofCall _) fun _ => blind_ite (blind_throw _) (blind_throw _)

theorem blind_readBytes (path : Text) : Blind R (readBytes path) := by
  refine h.blind_traced (blind_bind (blind_ofRule _) fun address => ?_)
  exact blind_bind (blind_fetch h _ _) fun _ => blind_during (Client.blind_readBody h _ _ _)

theorem blind_probe (path : Text) : Blind R (probe path) := by
  refine blind_recover (blind_discard (blind_isDirectory h path)) fun failure => ?_
  cases failure with
  | fault fault => exact blind_throw _
  | incident incident => exact blind_throw _

end S3

/-! ## Azure -/

namespace Azure

theorem Client.blind_container? (name : Text) : Blind R (container? name) :=
  h.blind_get_bind (fun hsites => by simp only [hsites.cloud_eq]) fun _ => blind_pure _

theorem Client.blind_containerExists (name : Text) : Blind R (containerExists name) :=
  blind_bind (h.perform rfl rfl rfl) fun _ => blind_bind (blind_container? h _) fun _ => blind_pure _

theorem Client.blind_walkBlobs (container : Text) (start : Option Text) :
    Blind R (walkBlobs container start) := by
  refine blind_bind (h.perform rfl rfl rfl) fun _ => blind_bind (blind_container? h _) fun found => ?_
  cases found with
  | none => exact blind_throw _
  | some found => exact blind_pure _

theorem Client.blind_blob (container name : Text) : Blind R (blob container name) := by
  refine blind_bind (blind_container? h _) fun found => ?_
  cases found.bind (·.get? name) with
  | none => exact blind_throw _
  | some object => exact blind_pure _

theorem Client.blind_blobExists (container name : Text) : Blind R (blobExists container name) :=
  blind_bind (h.perform rfl rfl rfl) fun _ => blind_bind (blind_container? h _) fun _ => blind_pure _

theorem Client.blind_getProperties (container name : Text) :
    Blind R (getProperties container name) :=
  blind_bind (h.perform rfl rfl rfl) fun _ => blind_bind (blind_blob h _ _) fun _ => blind_pure _

theorem Client.blind_downloadBlob (container name : Text) : Blind R (downloadBlob container name) :=
  blind_bind (h.perform rfl rfl rfl) fun _ => blind_bind (blind_blob h _ _) fun _ => blind_pure _

theorem Client.blind_readAll (container name : Text) (content : ByteArray) :
    Blind R (readAll container name content) :=
  blind_bind (h.perform rfl rfl rfl) fun _ => blind_pure _

theorem Client.blind_upload (container name : Text) (content : ByteArray) :
    Blind R (upload container name content) := by
  refine blind_bind (h.perform rfl rfl rfl) fun _ => blind_bind (blind_container? h _) fun found => ?_
  cases found with
  | none => exact blind_throw _
  | some found =>
      exact h.blind_modify (fun _ => rfl) (fun _ => ⟨rfl, rfl, Nat.le_refl _, fun _ => rfl⟩)
        fun hsites => { hsites with cloud_eq := by rw [hsites.cloud_eq] }

theorem blind_isDirectory (path : Text) : Blind R (isDirectory path) := by
  refine blind_bind (blind_ofRule _) fun address => blind_during ?_
  exact blind_ite (Client.blind_containerExists h _)
    (blind_bind (Client.blind_walkBlobs h _ _) fun _ => blind_pure _)

theorem blind_isPresent (path : Text) : Blind R (isPresent path) := by
  refine blind_bind (blind_ofRule _) fun address => ?_
  have hrest (isBlob : Bool) : Blind R (if isBlob then pure true else isDirectory path) :=
    blind_ite (blind_pure _) (blind_isDirectory h path)
  exact blind_ite (blind_bind (blind_pure _) hrest)
    (blind_bind (blind_during (Client.blind_blobExists h _ _)) hrest)

theorem blind_modified (path : Text) : Blind R (modified path) := by
  refine blind_bind (blind_isDirectory h path) fun found => blind_ite (blind_pure _) ?_
  refine blind_bind (blind_ofRule _) fun address => ?_
  exact blind_bind (blind_wrapping (Client.blind_getProperties h _ _)) fun _ => blind_pure _

theorem blind_walk (path : Text) : Blind R (walk path) := by
  refine blind_bind (blind_ofRule _) fun address => blind_during ?_
  exact blind_bind (Client.blind_walkBlobs h _ _) fun _ => blind_pure _

theorem blind_contents (path : Text) : Blind R (contents path) :=
  h.blind_traced (blind_bind (blind_walk h path) fun _ => blind_pure _)

theorem blind_subdirectories (path : Text) : Blind R (subdirectories path) :=
  blind_bind (blind_walk h path) fun _ => blind_pure _

theorem blind_files (path : Text) : Blind R (files path) :=
  blind_bind (blind_walk h path) fun _ => blind_pure _

theorem blind_readBytes (path : Text) : Blind R (readBytes path) := by
  refine h.blind_traced (blind_bind (blind_ofRule _) fun address => ?_)
  have hfetch : Blind R (orMissing .file .fetchBlob path do
      let content ← Client.downloadBlob address.container address.blob
      Client.readAll address.container address.blob content) :=
    blind_wrapping (blind_bind (Client.blind_downloadBlob h _ _) fun _ =>
      Client.blind_readAll h _ _ _)
  exact blind_ite (blind_bind (blind_throw _) fun _ => hfetch) hfetch

theorem blind_writeText (path : Text) (text : String) : Blind R (writeText path text) := by
  refine h.blind_traced (blind_bind (blind_ofRule _) fun address => ?_)
  have hupload : Blind R (during .uploadBlob path
      (Client.upload address.container address.blob text.toUTF8)) :=
    blind_during (Client.blind_upload h _ _ _)
  exact blind_ite (blind_bind (blind_throw _) fun _ => hupload) hupload

end Azure

/-! ## The local disk -/

namespace Local

omit h in
theorem blind_refused {wrap : Incident → Fault} {action : Action α} (haction : Blind R action) :
    Blind R (refused wrap action) := by
  refine blind_recover haction fun failure => ?_
  split
  · exact blind_throw _
  · exact blind_throw _

omit h in
theorem couple_refused {β : Type} {V : α → β → Prop} {wrap : Incident → Fault} {action : Action α}
    {action' : Action β} (haction : Couple V R action action') :
    Couple V R (refused wrap action) (refused wrap action') := by
  refine couple_recover haction fun failure => ?_
  split
  · exact couple_throw _
  · exact couple_throw _

theorem blind_isPresent (path : Text) : Blind R (isPresent path) :=
  h.blind_consult fun disk => disk.access_map path

/-- What is seen of a node does not depend on contents. -/
theorem couple_stat (path : Text) :
    Couple (fun node node' : Node => node'.map sight.content = node.map sight.content) R
      (consult (·.stat path)) (consult (·.stat path)) :=
  h.couple_consult fun disk => disk.stat_map path

theorem blind_isDirectory (path : Text) : Blind R (isDirectory path) := by
  refine blind_refused (couple_bind (couple_stat h path) fun node node' hnode => ?_).blind
  rw [← node.isDirectory_map, ← hnode, node'.isDirectory_map]
  exact couple_pure rfl

theorem blind_modified (path : Text) : Blind R (modified path) := by
  refine blind_refused (couple_bind (couple_stat h path) fun node node' hnode => ?_).blind
  rw [← node.modified_map, ← hnode, node'.modified_map]
  exact couple_pure rfl

theorem blind_contents (path : Text) : Blind R (contents path) :=
  h.blind_traced (blind_refused (h.blind_consult fun disk => disk.list_map path))

theorem couple_readBytes (path : Text) :
    Couple sight.SameContent R (readBytes path) (readBytes path) :=
  h.traced _ _ _ (couple_refused (h.couple_consult fun disk => disk.read_map path))

theorem couple_writeBytes (path : Text) {content content' : ByteArray}
    (hcontent : sight.SameContent content content') :
    Couple Eq R (writeBytes path content) (writeBytes path content') := by
  refine h.traced _ _ _ (couple_refused (h.couple_onDisk (DiskAction.mapped_write path content) ?_))
  rw [← hcontent]
  exact DiskAction.mapped_write path content'

theorem blind_writeBytes (path : Text) (content : ByteArray) : Blind R (writeBytes path content) :=
  (couple_writeBytes h path rfl).blind

theorem blind_makeDirectory (path : Text) (recursive : Bool) :
    Blind R (makeDirectory path recursive) := by
  refine blind_refused (h.blind_onDisk ?_)
  cases recursive with
  | true => exact DiskAction.mapped_makeDirectories path directoryMode
  | false => exact DiskAction.mapped_makeDirectory path directoryMode

/-- A try uses up a number and makes a directory, or another one follows. -/
theorem blind_tryTemporary (attempts : Nat) : Blind R (tryTemporary attempts) := by
  induction attempts with
  | zero => exact blind_throw _
  | succ attempts ih =>
      refine .of (fun site hsite => ?_) fun site site' hsites => ?_
      · have hlast : R.Astray { site with lastTemporary := site.lastTemporary + 1 } :=
          h.astray hsite (by rfl)
        simp only [tryTemporary]
        cases site.disk.makeDirectory (temporaryName (site.lastTemporary + 1)) directoryMode with
        | ok disk => exact h.astray hlast (by rfl)
        | error incident =>
            cases incident with
            | system refusal name =>
                cases refusal with
                | alreadyExists => exact ih.astray hlast
                | _ => exact hlast
            | _ => exact hlast
      have hagree := h.agree hsites
      have hmade (name : Text) :
          (site'.disk.makeDirectory name directoryMode).map (Disk.map sight.content) =
            (site.disk.makeDirectory name directoryMode).map (Disk.map sight.content) := by
        rw [← Disk.makeDirectory_map, ← Disk.makeDirectory_map, hagree.disk_eq]
      have hlast : R { site with lastTemporary := site.lastTemporary + 1 }
          { site' with lastTemporary := site.lastTemporary + 1 } :=
        h.become hsites rfl rfl ⟨rfl, rfl, Nat.le_refl _, fun _ => rfl⟩
          ⟨rfl, rfl, Nat.le_refl _, fun _ => rfl⟩ { hagree with lastTemporary_eq := rfl }
      have hnext {disk disk' : Disk} (hdisk : disk'.map sight.content = disk.map sight.content) :
          R (Site.withDisk { site with lastTemporary := site.lastTemporary + 1 } disk)
            (Site.withDisk { site' with lastTemporary := site.lastTemporary + 1 } disk') :=
        h.become hlast rfl rfl ⟨rfl, rfl, Nat.le_refl _, fun _ => rfl⟩
          ⟨rfl, rfl, Nat.le_refl _, fun _ => rfl⟩ ((h.agree hlast).withDisk hdisk)
      simp only [tryTemporary, hagree.lastTemporary_eq]
      rcases same_of_map_eq (hmade (temporaryName (site.lastTemporary + 1))) with
        ⟨disk, disk', hfirst, hsecond, hdisk⟩ | ⟨incident, hfirst, hsecond⟩
      · simp only [hfirst, hsecond]
        exact Or.inr (.ok (hnext hdisk))
      · simp only [hfirst, hsecond]
        cases incident with
        | system refusal name =>
            cases refusal with
            | alreadyExists => exact ih.alike hlast
            | _ => exact Or.inr (.error hlast)
        | _ => exact Or.inr (.error hlast)

theorem blind_makeTemporary : Blind R makeTemporary :=
  blind_refused (blind_tryTemporary h _)

theorem blind_deleteTree (path : Text) : Blind R (deleteTree path) :=
  h.blind_traced (blind_refused (h.blind_onDisk (DiskAction.mapped_removeTree path)))

end Local

/-! ## All kinds -/

namespace Backend

theorem blind_isPresent (kind : Kind) (path : Text) : Blind R (isPresent kind path) := by
  cases kind with
  | disk => exact Local.blind_isPresent h path
  | gcs => exact Gcs.blind_isPresent h path
  | s3 => exact S3.blind_isPresent h path
  | azure => exact Azure.blind_isPresent h path

theorem blind_isDirectory (kind : Kind) (path : Text) : Blind R (isDirectory kind path) := by
  cases kind with
  | disk => exact Local.blind_isDirectory h path
  | gcs => exact Gcs.blind_isDirectory h path
  | s3 => exact S3.blind_isDirectory h path
  | azure => exact Azure.blind_isDirectory h path

theorem blind_modified (kind : Kind) (path : Text) : Blind R (modified kind path) := by
  cases kind with
  | disk => exact Local.blind_modified h path
  | gcs => exact Gcs.blind_modified h path
  | s3 => exact S3.blind_modified h path
  | azure => exact Azure.blind_modified h path

theorem blind_contents (kind : Kind) (path : Text) : Blind R (contents kind path) := by
  cases kind with
  | disk => exact Local.blind_contents h path
  | gcs => exact Gcs.blind_contents h path
  | s3 => exact S3.blind_contents h path
  | azure => exact Azure.blind_contents h path

/-- What is read is the same up to what the sight shows of contents. -/
theorem couple_readBytes (kind : Kind) (path : Text) :
    Couple sight.SameContent R (readBytes kind path) (readBytes kind path) := by
  have hremote {action : Action ByteArray} (haction : Blind R action) :
      Couple sight.SameContent R action action :=
    haction.couple.mono fun _ _ hvalue => congrArg sight.content hvalue.symm
  cases kind with
  | disk => exact Local.couple_readBytes h path
  | gcs => exact hremote (Gcs.blind_readBytes h path)
  | s3 => exact hremote (S3.blind_readBytes h path)
  | azure => exact hremote (Azure.blind_readBytes h path)

theorem blind_select (kind : Kind) (path : Text) (wanted : Bool) :
    Blind R (select kind path wanted) := by
  refine blind_bind (blind_contents h kind path) fun names => ?_
  refine blind_bind (blind_filterM (fun name => ?_) _) fun _ => blind_pure _
  exact blind_bind (blind_isDirectory h kind _) fun _ => blind_pure _

theorem blind_subdirectories (kind : Kind) (path : Text) : Blind R (subdirectories kind path) := by
  cases kind with
  | azure => exact Azure.blind_subdirectories h path
  | disk => exact blind_select h .disk path true
  | gcs => exact blind_select h .gcs path true
  | s3 => exact blind_select h .s3 path true

theorem blind_files (kind : Kind) (path : Text) : Blind R (files kind path) := by
  cases kind with
  | azure => exact Azure.blind_files h path
  | disk => exact blind_select h .disk path false
  | gcs => exact blind_select h .gcs path false
  | s3 => exact blind_select h .s3 path false

omit h in
theorem blind_readBytes (h : Veil .clear R) (kind : Kind) (path : Text) :
    Blind R (readBytes kind path) :=
  ((couple_readBytes h kind path).mono fun _ _ hcontent => Eq.symm hcontent).blind

omit h in
/-- A content that is read as text is that text written down. -/
theorem toUTF8_of_fromUTF8? {content : ByteArray} {text : String}
    (htext : String.fromUTF8? content = some text) : text.toUTF8 = content := by
  unfold String.fromUTF8? at htext
  split at htext
  · cases htext
    rfl
  · cases htext

/-- What is read as text is the same up to what the sight shows of it when it is written down. -/
theorem couple_readText (kind : Kind) (path : Text) :
    Couple (fun text text' : String => sight.SameContent text.toUTF8 text'.toUTF8) R
      (readText kind path) (readText kind path) := by
  refine couple_bind (couple_readBytes h kind path) fun content content' hcontent => ?_
  have hlegible := sight.legible hcontent
  cases hfirst : String.fromUTF8? content with
  | none =>
      rw [hfirst, Option.isSome_none, Option.isSome_eq_false_iff, Option.isNone_iff_eq_none]
        at hlegible
      rw [hlegible]
      exact couple_throw _
  | some text =>
      rw [hfirst, Option.isSome_some] at hlegible
      obtain ⟨text', hsecond⟩ := Option.isSome_iff_exists.1 hlegible
      rw [hsecond]
      rw [← toUTF8_of_fromUTF8? hfirst, ← toUTF8_of_fromUTF8? hsecond] at hcontent
      exact couple_pure hcontent

omit h in
theorem blind_readText (h : Veil .clear R) (kind : Kind) (path : Text) :
    Blind R (readText kind path) :=
  ((couple_readText h kind path).mono fun _ _ htext => (String.toByteArray_inj.1 htext).symm).blind

theorem blind_writeText (kind : Kind) (path : Text) (text : String) :
    Blind R (writeText kind path text) := by
  cases kind with
  | disk => exact Local.blind_writeBytes h path _
  | azure => exact Azure.blind_writeText h path text
  | gcs => exact blind_throw _
  | s3 => exact blind_throw _

theorem blind_writeBytes (kind : Kind) (path : Text) (content : ByteArray) :
    Blind R (writeBytes kind path content) := by
  cases kind with
  | disk => exact Local.blind_writeBytes h path content
  | gcs => exact blind_throw _
  | s3 => exact blind_throw _
  | azure => exact blind_throw _

theorem blind_makeDirectory (kind : Kind) (path : Text) (recursive : Bool) :
    Blind R (makeDirectory kind path recursive) := by
  cases kind with
  | disk => exact Local.blind_makeDirectory h path recursive
  | gcs => exact blind_throw _
  | s3 => exact blind_throw _
  | azure => exact blind_throw _

theorem blind_makeTemporary (kind : Kind) : Blind R (makeTemporary kind) := by
  cases kind with
  | disk => exact Local.blind_makeTemporary h
  | gcs => exact blind_throw _
  | s3 => exact blind_throw _
  | azure => exact blind_throw _

theorem blind_deleteTree (kind : Kind) (path : Text) : Blind R (deleteTree kind path) := by
  cases kind with
  | disk => exact Local.blind_deleteTree h path
  | gcs => exact blind_throw _
  | s3 => exact blind_throw _
  | azure => exact blind_throw _

end Backend

/-! ## Local directories and replicas -/

namespace LocalDirectory

theorem blind_create (source : Text) (replica : Option Text) : Blind R (create source replica) :=
  blind_bind h.blind_freshSerial fun _ => blind_pure _

theorem blind_deleteReplica (path : Text) : Blind R (deleteReplica path) := by
  refine blind_recover (h.blind_onDisk (DiskAction.mapped_removeTree path)) fun failure => ?_
  split
  · exact blind_pure _
  · exact h.note _
  · exact blind_throw _

theorem blind_release (directory : LocalDirectory) : Blind R directory.release := by
  refine h.blind_get_bind (fun hsites => by simp only [hsites.serials_eq]) fun site => ?_
  refine blind_ite (blind_pure _) (blind_bind ?_ fun _ => blind_deleteReplica h _)
  exact h.blind_modify (fun _ => rfl) (fun _ => ⟨rfl, rfl, Nat.le_max_left .., fun _ => rfl⟩)
    fun hsites => { hsites with serials_eq := by rw [hsites.serials_eq] }

end LocalDirectory

namespace Replica

variable (kind : Kind) (source replica : Text)

theorem blind_entriesOf (directory : Text) : Blind R (entriesOf kind directory) :=
  blind_bind (Backend.blind_contents h kind directory) fun _ => blind_pure _

theorem blind_visit (entry : Text) : Blind R (visit kind source replica entry) := by
  have htarget : Blind R (target source replica entry) := by
    unfold target
    cases Path.relative? entry source with
    | none => exact blind_throw _
    | some relative => exact blind_pure _
  refine blind_bind htarget fun place => ?_
  refine blind_bind (Backend.blind_isDirectory h kind entry) fun found => ?_
  refine blind_ite ?_ ?_
  · exact blind_bind (Local.blind_makeDirectory h place false) fun _ => blind_entriesOf h kind entry
  · refine (couple_bind (Backend.couple_readBytes h kind entry) fun content content' h' => ?_).blind
    exact couple_bind (Local.couple_writeBytes h place h') fun _ _ _ => couple_pure rfl

theorem blind_level (entries : Names) : Blind R (level kind source replica entries) :=
  blind_foldlM (fun _ entry =>
    blind_bind (blind_visit h kind source replica entry) fun _ => blind_pure _) _ _

theorem blind_levels (bound : Nat) (entries : Names) :
    Blind R (levels kind source replica bound entries) := by
  induction bound generalizing entries with
  | zero => exact blind_throw _
  | succ bound ih =>
      exact blind_ite (blind_pure _)
        (blind_bind (blind_level h kind source replica entries) fun _ => ih _)

theorem blind_copy : Blind R (copy kind source replica) :=
  blind_bind (blind_entriesOf h kind source) fun _ => blind_levels h kind source replica _ _

theorem blind_make (path : Text) : Blind R (make kind path) := by
  refine blind_bind (blind_ofRule _) fun source => ?_
  have hcopy : Blind R (do
      let directory ← LocalDirectory.create source (some (← Local.makeTemporary))
      recover (copy kind source directory.path) fun failure => do
        directory.release
        throw failure
      return directory) := by
    refine blind_bind (Local.blind_makeTemporary h) fun replica => ?_
    refine blind_bind (LocalDirectory.blind_create h _ _) fun directory => ?_
    refine blind_bind (blind_recover (blind_copy h kind source _) fun failure => ?_) fun _ =>
      blind_pure _
    exact blind_bind (LocalDirectory.blind_release h directory) fun _ => blind_throw _
  refine blind_bind (Backend.blind_isPresent h kind source) fun found => ?_
  have hdirectory : Blind R (do
      if !(← Backend.isDirectory kind source) then
        raise (.missing .directoryToLocalize source none)
      let directory ← LocalDirectory.create source (some (← Local.makeTemporary))
      recover (copy kind source directory.path) fun failure => do
        directory.release
        throw failure
      return directory) := by
    refine blind_bind (Backend.blind_isDirectory h kind source) fun found => ?_
    exact blind_ite (blind_bind (blind_throw _) fun _ => hcopy) hcopy
  exact blind_ite (blind_bind (blind_throw _) fun _ => hdirectory) hdirectory

end Replica

namespace Backend

theorem blind_localizeLocal (path : Text) : Blind R (localizeLocal path) := by
  refine blind_bind (Local.blind_isPresent h path) fun found => ?_
  have hdirectory : Blind R (do
      if !(← Local.isDirectory path) then raise (.missing .directoryToLocalize path none)
      LocalDirectory.create path none) := by
    refine blind_bind (Local.blind_isDirectory h path) fun found => ?_
    exact blind_ite (blind_bind (blind_throw _) fun _ => LocalDirectory.blind_create h _ _)
      (LocalDirectory.blind_create h _ _)
  exact blind_ite (blind_bind (blind_throw _) fun _ => hdirectory) hdirectory

theorem blind_localize (kind : Kind) (path : Text) : Blind R (localize kind path) := by
  refine h.blind_traced ?_
  cases kind with
  | disk => exact blind_localizeLocal h path
  | gcs => exact Replica.blind_make h .gcs path
  | s3 => exact Replica.blind_make h .s3 path
  | azure => exact Replica.blind_make h .azure path

/-! ## Scripts and probes -/

theorem blind_updateScript (number : Nat) (change : Script → Script) :
    Blind R (updateScript number change) :=
  h.blind_modify (fun _ => rfl) (fun _ => ⟨rfl, rfl, Nat.le_refl _, fun _ => rfl⟩)
    fun hsites => { hsites with scripts_eq := by rw [hsites.scripts_eq] }

omit h in
theorem blind_obey (verdict : Verdict) (words : String) : Blind R (obey verdict words) := by
  cases verdict with
  | pass => exact blind_pure _
  | broken => exact blind_throw _
  | fault kind => exact blind_throw _

theorem blind_nextBuild (number : Nat) : Blind R (nextBuild number) := by
  refine h.blind_get_bind (fun hsites => by simp only [hsites.scripts_eq]) fun site => ?_
  cases (site.scripts.getD number {}).builds with
  | nil => exact blind_pure _
  | cons verdict others => exact blind_bind (blind_updateScript h _ _) fun _ => blind_pure _

theorem blind_probeKind (kind : Kind) (path : Text) : Blind R (probeKind kind path) := by
  cases kind with
  | s3 => exact S3.blind_probe h path
  | disk => exact blind_pure _
  | gcs => exact blind_pure _
  | azure => exact blind_pure _

theorem blind_nextProbe? (number : Nat) : Blind R (nextProbe? number) := by
  refine h.blind_get_bind (fun hsites => by simp only [hsites.scripts_eq]) fun site => ?_
  cases (site.scripts.getD number {}).probes with
  | nil => exact blind_pure _
  | cons verdict others => exact blind_bind (blind_updateScript h _ _) fun _ => blind_pure _

theorem blind_probe (backend : Backend) (path : Text) : Blind R (backend.probe path) := by
  unfold probe
  cases backend.script with
  | none => exact blind_probeKind h _ path
  | some number =>
      refine blind_bind (h.perform rfl rfl rfl) fun _ => ?_
      refine blind_bind (blind_nextProbe? h number) fun verdict => ?_
      cases verdict with
      | none => exact blind_probeKind h _ path
      | some verdict => exact blind_obey verdict _

end Backend

/-! ## Keyrings -/

namespace Keyring

/-- A keyring is seen without its secrets. -/
theorem couple_get (number : Nat) :
    Couple (fun keyring keyring' : Keyring =>
      keyring'.hide sight.secret = keyring.hide sight.secret) R (get number) (get number) where
  astray _ hsite := .ok rfl hsite
  alike _ _ hsites := Or.inr (.ok ((h.agree hsites).keyring_eq number) hsites)

/-- Of the tables of a document all is seen but secrets. -/
theorem couple_readTables (config : Text) :
    Couple (fun tables tables' : KeyTables =>
      tables'.hide sight.secret = tables.hide sight.secret) R (readTables config)
      (readTables config) := by
  have hread : Couple sight.SameContent R (readConfig config) (readConfig config) :=
    couple_recover ((h.perform rfl rfl rfl).couple_bind fun _ =>
      h.couple_consult fun disk => disk.read_map config) fun _ => couple_throw _
  refine couple_bind hread fun content content' hcontent => ?_
  refine couple_bind Action.couple_get fun site site' hsites => ?_
  have hagree := h.agree hsites
  rw [hagree.nesting_eq]
  rcases same_of_map_eq (sight.tables config hagree.suits hcontent) with
    ⟨tables, tables', hfirst, hsecond, htables⟩ | ⟨failure, hfirst, hsecond⟩
  · rw [hfirst, hsecond]
    exact couple_pure htables
  · rw [hfirst, hsecond]
    exact couple_throw _

omit h in
/-- Two keyrings that show the same take their documents from one path on agreeing sites. -/
theorem configPath?_of_agree {site site' : Site} (hsites : site.Agree sight site')
    {keyring keyring' : Keyring}
    (hhidden : keyring'.hide sight.secret = keyring.hide sight.secret) :
    keyring'.configPath? site'.environment = keyring.configPath? site.environment := by
  have hconfig : keyring'.config = keyring.config := (congrArg Keyring.config hhidden :)
  rw [configPath?, configPath?, hconfig, hsites.setting_eq configSetting (by decide)]

/-- A load can be seen only where other tables can. -/
theorem blind_load {number : Nat} (force : Bool)
    (hkeyring : ∀ {site site' : Site} {change change' : Keyring → Keyring}, R site site' →
      (∀ {keyring keyring' : Keyring},
        keyring'.hide sight.secret = keyring.hide sight.secret →
          (change' keyring').hide sight.secret = (change keyring).hide sight.secret) →
        R (site.withKeyring number change) (site'.withKeyring number change')) :
    Blind R (load number force) := by
  have hwithout : Blind R (update number withoutTables) :=
    .of (fun _ hsite => h.astray hsite (by rfl)) fun _ _ hsites => Or.inr (.ok (hkeyring hsites
      fun hhidden => congrArg (fun keyring : Keyring =>
        { keyring with tables := {}, cached := false }) hhidden))
  have hwith {tables tables' : KeyTables}
      (htables : tables'.hide sight.secret = tables.hide sight.secret) :
      Couple Eq R (update number (withTables tables)) (update number (withTables tables')) := by
    refine ⟨fun _ hsite => .ok rfl (h.astray hsite (by rfl)),
      fun _ _ hsites => Or.inr (.ok rfl (hkeyring hsites fun {keyring keyring'} hhidden => ?_))⟩
    have hrest := congrArg (fun keyring : Keyring =>
      { keyring with tables := tables.hide sight.secret, cached := true }) hhidden
    simpa only [hide, withTables, htables] using hrest
  refine (couple_bind (couple_get h number) fun keyring keyring' hhidden => ?_).blind
  have hcached : keyring'.cached = keyring.cached := (congrArg Keyring.cached hhidden :)
  rw [hcached]
  refine couple_ite (couple_pure rfl) (couple_bind Action.couple_get fun site site' hsites => ?_)
  rw [configPath?_of_agree (h.agree hsites) hhidden]
  split
  · exact hwithout.couple_bind fun _ => couple_pure rfl
  · exact hwithout.couple_bind fun _ => couple_pure rfl
  · refine couple_bind (couple_readTables h _) fun tables tables' htables => ?_
    exact couple_bind (hwith htables) fun _ _ _ => couple_pure rfl

omit h in
/-- Where everything is shown two changes that show the same are one. -/
theorem blind_load_of_unseen {S : Site → Site → Prop} (h : Unseen S) {number : Nat} (force : Bool)
    (hkeyring : ∀ {site site' : Site} (change : Keyring → Keyring), S site site' →
      S (site.withKeyring number change) (site'.withKeyring number change)) :
    Blind S (load number force) := by
  refine blind_load h.veil force fun {site site' change change'} hsites hchange => ?_
  have hsame : change' = change := by
    funext keyring
    simpa only [Sight.clear, hide_id] using @hchange keyring keyring rfl
  rw [hsame]
  exact hkeyring change hsites

/-- Of the credential for a path all is seen but its secrets. -/
theorem couple_credentialFor (number : Nat) (kind : Kind) (path : Text) :
    Couple (fun credential credential' : Credential =>
      credential'.hide sight.secret = credential.hide sight.secret) R
      (credentialFor number kind path) (credentialFor number kind path) := by
  refine couple_bind (couple_get h number) fun keyring keyring' hhidden => ?_
  have hmatch : (keyring'.tables.match? kind path).map (Credential.hide sight.secret) =
      (keyring.tables.match? kind path).map (Credential.hide sight.secret) := by
    rw [← KeyTables.match?_hide, ← KeyTables.match?_hide]
    exact congrArg (fun keyring : Keyring => keyring.tables.match? kind path) hhidden
  cases hfirst : keyring.tables.match? kind path with
  | none =>
      rw [hfirst] at hmatch
      rw [Option.map_eq_none_iff.1 hmatch]
      exact couple_throw _
  | some credential =>
      rw [hfirst] at hmatch
      obtain ⟨credential', hsecond, hshown⟩ := Option.map_eq_some_iff.1 hmatch
      rw [hsecond]
      exact couple_pure hshown

omit h in
/-- A change that leaves the tables of a keyring leaves those of all. -/
theorem tables_withKeyring {site : Site} {changed : Nat} {change : Keyring → Keyring}
    (hchange : ∀ keyring, (change keyring).tables = keyring.tables) (number : Nat) :
    ((site.withKeyring changed change).keyring number).tables = (site.keyring number).tables := by
  unfold Site.keyring Site.withKeyring
  rw [List.getD_eq_getElem?_getD, List.getD_eq_getElem?_getD, List.getElem?_modify]
  cases site.keyrings[number]? with
  | none => rfl
  | some keyring =>
      by_cases hsame : changed = number
      · simp [hsame, hchange]
      · simp [hsame]

omit h in
/-- A keyring that was just made has no tables, as if it were not there. -/
theorem tables_concat (config : Option Text) (site : Site) (number : Nat) :
    (({ site with keyrings := site.keyrings ++ [{ config }] } : Site).keyring number).tables =
      (site.keyring number).tables := by
  unfold Site.keyring
  rw [List.getD_eq_getElem?_getD, List.getD_eq_getElem?_getD, List.getElem?_append]
  split
  · rfl
  · next hafter =>
      rw [List.getElem?_eq_none (Nat.le_of_not_lt hafter)]
      cases number - site.keyrings.length <;> rfl

omit h in
theorem blind_credentialFor (h : Veil .clear R) (number : Nat) (kind : Kind) (path : Text) :
    Blind R (credentialFor number kind path) :=
  ((couple_credentialFor h number kind path).mono fun _ _ hshown => by
    simpa only [Sight.clear, Credential.hide_id] using hshown.symm).blind

theorem blind_warnAmbient (number : Nat) (kind : Kind) : Blind R (warnAmbient number kind) := by
  refine (couple_bind (couple_get h number) fun keyring keyring' hhidden => ?_).blind
  have hwarned : keyring'.warned = keyring.warned := (congrArg Keyring.warned hhidden :)
  rw [hwarned]
  refine couple_ite (couple_pure rfl) (Blind.couple (blind_bind ?_ fun _ => h.note _))
  exact h.blind_modify (fun _ => rfl)
    (fun _ => ⟨rfl, rfl, Nat.le_refl _, tables_withKeyring fun _ => rfl⟩)
    fun hsites => hsites.withKeyring number fun hkeyring =>
      congrArg (fun keyring : Keyring => { keyring with warned := kind :: keyring.warned }) hkeyring

theorem blind_invalidate (number : Nat) : Blind R (invalidate number) :=
  h.blind_modify (fun _ => rfl)
    (fun _ => ⟨rfl, rfl, Nat.le_refl _, tables_withKeyring fun _ => rfl⟩)
    fun hsites => hsites.withKeyring number fun hkeyring =>
      congrArg (fun keyring : Keyring => { keyring with cached := false }) hkeyring

theorem blind_create (config : Option Text) : Blind R (create config) := by
  refine .of (fun _ hsite => h.astray hsite (by rfl)) fun site site' hsites => Or.inr ?_
  have hagree := h.agree hsites
  have hlength : site'.keyrings.length = site.keyrings.length := by
    have hkeyrings := congrArg List.length hagree.keyrings_eq
    simpa only [List.length_map] using hkeyrings
  unfold create
  rw [hlength]
  refine .ok (h.become hsites rfl rfl ⟨rfl, rfl, Nat.le_refl _, tables_concat config site⟩
    ⟨rfl, rfl, Nat.le_refl _, tables_concat config site'⟩ { hagree with keyrings_eq := ?_ })
  simp only [List.map_append, hagree.keyrings_eq]

theorem blind_default : Blind R Keyring.default := by
  refine h.blind_get_bind (fun hsites => by simp only [hsites.defaultKeyring_eq]) fun site => ?_
  cases site.defaultKeyring with
  | some number => exact blind_pure _
  | none =>
      refine blind_bind (blind_create h none) fun number => blind_bind ?_ fun _ => blind_pure _
      exact h.blind_modify (fun _ => rfl) (fun _ => ⟨rfl, rfl, Nat.le_refl _, fun _ => rfl⟩)
        fun hsites => { hsites with defaultKeyring_eq := rfl }

end Keyring

end Operations

/-! ## Sessions -/

/-- Two sessions differ in their sites only, and these are related. -/
def Session.Lift (R : Site → Site → Prop) (session session' : Session) : Prop :=
  R session.site session'.site ∧ session' = { session with site := session'.site }

/-- Sessions are compared by their sites. -/
def Action.Comparison.lift (R : Comparison Site) : Comparison Session where
  Related := Session.Lift R
  Astray session := R.Astray session.site
  partner {session} h :=
    (R.partner h).elim fun site hsites => ⟨{ session with site }, hsites, rfl⟩

/-- Is a request answered with the content of a file? -/
def Request.readsFile : Request → Bool
  | .readBytes _ | .readText _ => true
  | _ => false

/--
Two replies are the same, or they differ only in what the sight does not show of secrets or, if
contents of files are `disclosed`, of these.
-/
inductive Reply.Like (sight : Sight) : Bool → Reply → Reply → Prop where
  | same {disclosed : Bool} (reply : Reply) : Like sight disclosed reply reply
  | credential {disclosed : Bool} {credential credential' : Credential}
      (h : credential'.hide sight.secret = credential.hide sight.secret) :
      Like sight disclosed (.credential credential) (.credential credential')
  | grants {disclosed : Bool} {grants grants' : List Grant}
      (h : grants'.map (Grant.hide sight.secret) = grants.map (Grant.hide sight.secret)) :
      Like sight disclosed (.grants grants) (.grants grants')
  | bytes {content content' : ByteArray} (h : sight.SameContent content content') :
      Like sight true (.bytes content) (.bytes content')
  | text {text text' : String} (h : sight.SameContent text.toUTF8 text'.toUTF8) :
      Like sight true (SessionAction.shown text) (SessionAction.shown text')
  | tree {entries entries' : Option (List (Text × Option ByteArray))}
      (h : entries'.map (List.map fun row => (row.1, row.2.map sight.content)) =
        entries.map (List.map fun row => (row.1, row.2.map sight.content))) :
      Like sight true (.tree entries) (.tree entries')

/-- A clear sight shows everything. -/
theorem Reply.Like.eq {disclosed : Bool} {reply reply' : Reply}
    (h : Reply.Like .clear disclosed reply reply') : reply = reply' := by
  cases h with
  | same => rfl
  | credential h =>
      simp only [Sight.clear, Credential.hide_id] at h
      rw [h]
  | grants h =>
      simp only [Sight.clear, funext Grant.hide_id, List.map_id'] at h
      rw [h]
  | bytes h => exact congrArg Reply.bytes h.symm
  | text h => rw [String.toByteArray_inj.1 h]
  | tree h =>
      simp only [Sight.clear, Option.map_id, id_eq, Prod.eta, List.map_id_fun']
        at h
      rw [h]

namespace SessionAction

/-- Two runs that end alike on the sites of two sessions end alike in the sessions. -/
theorem alike_onSite {S : Site → Site → Prop} {action : Action α} {session session' : Session}
    (h : Alike S (action session.site) (action session'.site))
    (hsame : session' = { session with site := session'.site }) :
    Alike (Session.Lift S) (onSite action session) (onSite action session') := by
  unfold onSite
  generalize action session.site = first at h
  generalize action session'.site = second at h
  cases h with
  | ok hlast => exact .ok ⟨hlast, by rw [hsame]⟩
  | error hlast => exact .error ⟨hlast, by rw [hsame]⟩

theorem answer_eq (reply : α → Reply) (action : Action α) :
    answer reply action = onSite action >>= fun value => pure (reply value) :=
  map_eq_pure_bind _ _

theorem couple_onSite {V : α → α → Prop} {action action' : Action α}
    (haction : Couple V R action action') :
    Couple V R.lift (onSite action) (onSite action') := by
  have hastray (session : Session) (h : Strayed V R (action session.site)) :
      Strayed V R.lift (onSite action session) := by
    unfold onSite
    generalize action session.site = first at h
    cases h with
    | ok hvalue hlast => exact .ok hvalue hlast
    | error hlast => exact .error hlast
  refine ⟨fun session hsession => hastray session (haction.astray _ hsession), ?_⟩
  rintro session session' ⟨hsites, hsame⟩
  refine (haction.alike _ _ hsites).imp (hastray session) fun halike => ?_
  unfold onSite
  generalize action session.site = first at halike
  generalize action' session'.site = second at halike
  cases halike with
  | ok hvalue hlast => exact .ok hvalue ⟨hlast, by rw [hsame]⟩
  | error hlast => exact .error ⟨hlast, by rw [hsame]⟩

theorem blind_onSite {action : Action α} (haction : Blind R action) :
    Blind R.lift (onSite action) := couple_onSite haction.couple

theorem blind_answer (reply : α → Reply) {action : Action α} (haction : Blind R action) :
    Blind R.lift (answer reply action) := by
  rw [answer_eq]
  exact blind_bind (blind_onSite haction) fun _ => blind_pure _

theorem couple_answer {V : α → α → Prop} {W : Reply → Reply → Prop} {reply : α → Reply}
    {action action' : Action α} (haction : Couple V R action action')
    (hreply : ∀ value value', V value value' → W (reply value) (reply value')) :
    Couple W R.lift (answer reply action) (answer reply action') := by
  rw [answer_eq, answer_eq]
  exact couple_bind (couple_onSite haction) fun _ _ hvalue => couple_pure (hreply _ _ hvalue)

theorem blind_keep (h : Veil sight R) (name : Option Text) (directory : LocalDirectory) :
    Blind R.lift (keep name directory) := by
  refine .of (fun _ => id) ?_
  rintro session session' ⟨hsites, hsame⟩
  have hreleased : directory.isReleased session'.site = directory.isReleased session.site := by
    simp only [LocalDirectory.isReleased, (h.agree hsites).serials_eq]
  change _ ∨ Alike _ (.ok (Reply.directory directory (directory.isReleased session.site)) _)
    (.ok (Reply.directory directory (directory.isReleased session'.site)) _)
  rw [hreleased]
  exact Or.inr (.ok ⟨hsites, by rw [hsame]⟩)

/-- What a backend is asked for, other than to close, shows no more than the sight does. -/
theorem couple_answerBackend (h : Veil sight R) (backend : Backend) (request : Request)
    (hrequest : request ≠ .close) :
    Couple (Reply.Like sight request.readsFile) R.lift (answerBackend backend request)
      (answerBackend backend request) := by
  have hsame {action : SessionAction Reply} {disclosed : Bool}
      (haction : Blind R.lift action) :
      Couple (Reply.Like sight disclosed) R.lift action action :=
    haction.couple.mono fun _ _ hreply => hreply ▸ .same _
  cases request with
  | isPresent path => exact hsame (blind_answer _ (Backend.blind_isPresent h _ path))
  | isDirectory path => exact hsame (blind_answer _ (Backend.blind_isDirectory h _ path))
  | modified path => exact hsame (blind_answer _ (Backend.blind_modified h _ path))
  | contents path => exact hsame (blind_answer _ (Backend.blind_contents h _ path))
  | subdirectories path => exact hsame (blind_answer _ (Backend.blind_subdirectories h _ path))
  | files path skipHidden => exact hsame (blind_answer _ (Backend.blind_files h _ path))
  | readBytes path =>
      exact couple_answer (Backend.couple_readBytes h _ path) fun _ _ hvalue => .bytes hvalue
  | readText path =>
      exact couple_answer (Backend.couple_readText h _ path) fun _ _ hvalue => .text hvalue
  | writeText path text => exact hsame (blind_answer _ (Backend.blind_writeText h _ path text))
  | writeBytes path content =>
      exact hsame (blind_answer _ (Backend.blind_writeBytes h _ path content))
  | makeDirectory path recursive =>
      exact hsame (blind_answer _ (Backend.blind_makeDirectory h _ path recursive))
  | makeTemporary kind => exact hsame (blind_answer _ (Backend.blind_makeTemporary h _))
  | deleteTree path => exact hsame (blind_answer _ (Backend.blind_deleteTree h _ path))
  | localize path name =>
      exact hsame (blind_bind (blind_onSite (Backend.blind_localize h _ path)) (blind_keep h name))
  | probe path => exact hsame (blind_answer _ (Backend.blind_probe h backend path))
  | normalize path => exact hsame (blind_answer _ (blind_ofRule _))
  | kindOfPath path => exact hsame (blind_answer _ (blind_ofRule _))
  | kindName wanted => exact hsame (blind_pure _)
  | close => exact absurd rfl hrequest

/-- What a backend is asked for, other than to close, sees neither rules nor log. -/
theorem blind_answerBackend {S : Site → Site → Prop} (h : Unseen S) (backend : Backend)
    (request : Request) (hrequest : request ≠ .close) :
    Blind (Comparison.lift S) (answerBackend backend request) :=
  ((couple_answerBackend h.veil backend request hrequest).mono fun _ _ => Reply.Like.eq).blind

/--
What the shortcuts run: an operation of the backend that serves a path or a kind, or something that
needs no backend.  Neither sees rules or log.
-/
inductive Shortcut : {α : Type} → Action α → Prop where
  | serving {α : Type} (path : Text) {operation : Kind → Action α}
      (h : ∀ kind {R : Site → Site → Prop}, Unseen R → Blind R (operation kind)) :
      Shortcut (Shortcuts.serving path operation)
  | servingKind {α : Type} (kind : Kind) {operation : Kind → Action α}
      (h : ∀ kind {R : Site → Site → Prop}, Unseen R → Blind R (operation kind)) :
      Shortcut (Shortcuts.servingKind kind operation)
  | alone {α : Type} {action : Action α}
      (h : ∀ {R : Site → Site → Prop}, Unseen R → Blind R action) : Shortcut action

/-- The names of files are sorted out in the reply, after the backend has named them. -/
theorem answer_files (path : Text) (skipHidden : Bool) :
    answerShortcut (.files path skipHidden) =
      onSite (Shortcuts.serving path (Backend.files · path)) >>= fun names => pure (.names
        (if skipHidden then names.filter (fun name => !Shortcuts.isHidden name) else names)) := by
  funext session
  change (answer .names (Shortcuts.files path skipHidden)) session = _
  rw [answer_eq]
  change EStateM.bind _ _ session = EStateM.bind _ _ session
  unfold EStateM.bind onSite Shortcuts.files
  cases hrun : Shortcuts.serving path (Backend.files · path) session.site with
  | ok names site =>
      rw [bind_ok hrun]
      rfl
  | error failure site => rw [bind_error hrun]

/-- Every request that shortcuts answer is one of these, with a reply that sees as little. -/
theorem answerShortcut_cases (request : Request) :
    ∃ (α : Type) (action : Action α) (reply : α → SessionAction Reply), Shortcut action ∧
      answerShortcut request = onSite action >>= reply ∧
        ∀ value {R : Site → Site → Prop}, Unseen R → Blind (Comparison.lift R) (reply value) := by
  have hserving {β : Type} (path : Text) (reply : β → Reply) {operation : Kind → Action β}
      (h : ∀ kind {R : Site → Site → Prop}, Unseen R → Blind R (operation kind)) :
      ∃ (α : Type) (action : Action α) (reply' : α → SessionAction Reply), Shortcut action ∧
        answer reply (Shortcuts.serving path operation) = onSite action >>= reply' ∧
          ∀ value {R : Site → Site → Prop}, Unseen R → Blind (Comparison.lift R) (reply' value) :=
    ⟨β, _, _, .serving path h, answer_eq _ _, fun _ _ _ => blind_pure _⟩
  cases request with
  | isPresent path => exact hserving path _ fun kind _ h => Backend.blind_isPresent h.veil kind path
  | isDirectory path => exact hserving path _ fun kind _ h => Backend.blind_isDirectory h.veil kind path
  | modified path => exact hserving path _ fun kind _ h => Backend.blind_modified h.veil kind path
  | contents path => exact hserving path _ fun kind _ h => Backend.blind_contents h.veil kind path
  | subdirectories path =>
      exact hserving path _ fun kind _ h => Backend.blind_subdirectories h.veil kind path
  | files path skipHidden =>
      exact ⟨_, _, _, .serving path fun kind _ h => Backend.blind_files h.veil kind path,
        answer_files path skipHidden, fun _ _ _ => blind_pure _⟩
  | readBytes path => exact hserving path _ fun kind _ h => Backend.blind_readBytes h.veil kind path
  | readText path => exact hserving path _ fun kind _ h => Backend.blind_readText h.veil kind path
  | writeText path text =>
      exact hserving path _ fun kind _ h => Backend.blind_writeText h.veil kind path text
  | writeBytes path content =>
      exact hserving path _ fun kind _ h => Backend.blind_writeBytes h.veil kind path content
  | makeDirectory path recursive =>
      exact hserving path _ fun kind _ h => Backend.blind_makeDirectory h.veil kind path recursive
  | makeTemporary kind =>
      exact ⟨_, _, _, .servingKind kind fun kind _ h => Backend.blind_makeTemporary h.veil kind,
        answer_eq _ _, fun _ _ _ => blind_pure _⟩
  | deleteTree path => exact hserving path _ fun kind _ h => Backend.blind_deleteTree h.veil kind path
  | localize path name =>
      exact ⟨_, _, _, .serving path fun kind _ h => Backend.blind_localize h.veil kind path, rfl,
        fun directory _ h => blind_keep h.veil name directory⟩
  | kindOfPath path =>
      exact ⟨_, _, _, .alone fun _ => blind_ofRule (Kind.ofPath path), answer_eq _ _,
        fun _ _ _ => blind_pure _⟩
  | kindName wanted =>
      exact ⟨Unit, _, fun _ => pure (shown wanted.name), .alone fun _ => blind_pure (), rfl,
        fun _ _ _ => blind_pure _⟩
  | probe path =>
      exact ⟨Unit, _, fun _ => pure .nothing, .alone fun _ => blind_pure (), rfl,
        fun _ _ _ => blind_pure _⟩
  | normalize path =>
      exact ⟨Unit, _, fun _ => pure .nothing, .alone fun _ => blind_pure (), rfl,
        fun _ _ _ => blind_pure _⟩
  | close =>
      exact ⟨Unit, _, fun _ => pure .nothing, .alone fun _ => blind_pure (), rfl,
        fun _ _ _ => blind_pure _⟩

end SessionAction

end ArtifactDepot
