import ArtifactDepot.Proofs.Yields
import ArtifactDepot.Proofs.Address

/-!
# What a store answers

The three object stores are asked in different ways, page by page or step by
step, and answer the same: a key names a directory if other keys continue it,
its children are the first components of what remains of them, and its
content is that of the object under it.  `Backend.isDirectory_yields`,
`Backend.contents_yields` and `Backend.readBytes_yields` say so for a path
with a known address.
-/

namespace ArtifactDepot

open Text (slash)
open ArtifactDepot.Action

namespace Bucket

/-- Does a key name a directory of the bucket?  The empty key names the bucket. -/
def hasDirectory (bucket : Bucket) (key : Text) : Bool :=
  key.isEmpty || !(bucket.keysFrom (Key.asDirectory key)).isEmpty

/-- The names in the directory that a key names. -/
def children (bucket : Bucket) (key : Text) : Names :=
  Names.ofList ((bucket.keysFrom (Key.asDirectory key)).filterMap (Key.child? · (Key.asDirectory key)))

/-- The content of the object under a key. -/
def content? (bucket : Bucket) (key : Text) : Option ByteArray := (bucket.get? key).map (·.content)

/-- A key that is not empty names a directory if other keys continue it. -/
theorem hasDirectory_of_nonempty (bucket : Bucket) {key : Text} (h : key ≠ []) :
    bucket.hasDirectory key = !(bucket.keysFrom (Key.asDirectory key)).isEmpty := by
  have hempty : key.isEmpty = false := by simpa using h
  rw [hasDirectory, hempty, Bool.false_or]

/-- A listing holds no more keys than the bucket. -/
theorem length_keysFrom_le (bucket : Bucket) (start : Text) :
    (bucket.keysFrom start).length ≤ bucket.length := by
  rw [keysFrom, Text.sort, List.length_mergeSort]
  refine Nat.le_trans (List.length_filter_le _ _) (Nat.le_of_eq ?_)
  rw [keys, List.length_map]

/-- A walk with a delimiter names the same children as the keys that it stands for. -/
theorem child?_stepOf {start key : Text} (h : start <+: key) :
    Key.child? (stepOf start key) start = Key.child? key start := by
  obtain ⟨rest, rfl⟩ := h
  have hcut (tail : Text) : Text.afterPrefix? start (start ++ tail) = some tail :=
    Text.afterPrefix?_eq_some_iff.2 rfl
  have hdrop : (start ++ rest).drop start.length = rest := List.drop_left
  simp only [stepOf, hdrop]
  split
  · have hname : (rest.takeWhile (· != slash) ++ [slash]).takeWhile (· != slash) =
        rest.takeWhile (· != slash) :=
      Text.takeWhile_name (Text.slash_not_mem_takeWhile rest) (Or.inr (by simp))
    simp only [Key.child?, List.append_assoc, hcut, hname]
  · rfl

/-- The children that a walk with a delimiter names are those of the directory. -/
theorem children_stepsFrom (bucket : Bucket) (key : Text) :
    Names.ofList ((bucket.stepsFrom (Key.asDirectory key)).toList.filterMap
      (Key.child? · (Key.asDirectory key))) = bucket.children key := by
  apply Names.ext_mem
  intro name
  simp only [children, Names.mem_ofList, List.mem_filterMap]
  constructor
  · rintro ⟨step, hstep, hchild⟩
    obtain ⟨found, hfound, rfl⟩ := List.mem_map.1 (Names.mem_ofList.1 hstep)
    rw [child?_stepOf (mem_keysFrom.1 hfound).2] at hchild
    exact ⟨found, hfound, hchild⟩
  · rintro ⟨found, hfound, hchild⟩
    refine ⟨_, Names.mem_ofList.2 (List.mem_map.2 ⟨found, hfound, rfl⟩), ?_⟩
    rwa [child?_stepOf (mem_keysFrom.1 hfound).2]

/-- A walk with a delimiter finds something where a listing does. -/
theorem isEmpty_stepsFrom (bucket : Bucket) (start : Text) :
    (bucket.stepsFrom start).toList.isEmpty = (bucket.keysFrom start).isEmpty := by
  cases hkeys : bucket.keysFrom start with
  | nil => simp [stepsFrom, hkeys, Names.ofList, Names.empty]
  | cons first others =>
      have hmem : stepOf start first ∈ bucket.stepsFrom start := by
        rw [stepsFrom, Names.mem_ofList, hkeys]
        exact List.mem_cons_self ..
      rw [List.isEmpty_cons, List.isEmpty_eq_false_iff]
      exact List.ne_nil_of_mem hmem

end Bucket

variable {path : Text} {bucket : Bucket} {site : Site}

/-! ## Cloud Storage -/

namespace Gcs

variable {address : Address} (haddress : parse path = .ok address)
  (hbucket : site.cloud.bucket? .gcs address.bucket = some bucket)

theorem Client.listBlobs_yields {name start : Text} {most : Option Nat}
    (hbucket : site.cloud.bucket? .gcs name = some bucket) :
    Yields path .gcs name []
      (some ((most.map (bucket.keysFrom start).take).getD (bucket.keysFrom start)))
      (listBlobs name start most) site := by
  apply Yields.ask rfl rfl
  intro site' hrecorded
  apply Yields.bind_get
  rw [hrecorded.cloud_eq, hbucket]
  exact Yields.pure _

omit hbucket in
theorem Client.getBlob_yields {name key : Text}
    (hbucket : site.cloud.bucket? .gcs name = some bucket) :
    Yields path .gcs name [] (some (bucket.get? key)) (getBlob name key) site := by
  apply Yields.ask rfl rfl
  intro site' hrecorded
  apply Yields.bind_get
  rw [hrecorded.cloud_eq, hbucket]
  exact Yields.pure _

include haddress hbucket

theorem isDirectory_yields (other : Text) :
    Yields other .gcs address.bucket [] (some (bucket.hasDirectory address.object))
      (isDirectory path) site := by
  refine Yields.bind_rule haddress (Yields.during ?_)
  have hlookup : Yields other .gcs address.bucket [] (some true)
      (Client.lookupBucket address.bucket) site := by
    apply Yields.ask rfl rfl
    intro site' hrecorded
    apply Yields.bind_get
    rw [hrecorded.cloud_eq, hbucket]
    exact Yields.pure _
  apply hlookup.bind
  intro site' hrecorded
  dsimp only
  rw [if_neg (by decide)]
  by_cases hempty : address.object.isEmpty = true
  · rw [if_pos hempty, Bucket.hasDirectory, hempty, Bool.true_or]
    exact Yields.pure _
  · rw [if_neg hempty, bucket.hasDirectory_of_nonempty (by simpa using hempty)]
    rw [← hrecorded.cloud_eq] at hbucket
    apply (Client.listBlobs_yields hbucket).bind
    intro site'' _
    cases bucket.keysFrom (Key.asDirectory address.object) with
    | nil => exact Yields.pure _
    | cons first others => exact Yields.pure _

theorem isPresent_yields (hdirectory : bucket.hasDirectory address.object = true) :
    Yields path .gcs address.bucket [] (some true) (isPresent path) site := by
  have hrest (isObject : Bool) {site' : Site} (hrecorded : Site.Recorded site site') :
      Yields path .gcs address.bucket [] (some true)
        (if isObject then pure true else isDirectory path) site' := by
    cases isObject with
    | true => exact Yields.pure _
    | false =>
        rw [← hrecorded.cloud_eq] at hbucket
        have hfound := isDirectory_yields haddress hbucket path
        rwa [hdirectory] at hfound
  apply Yields.bind_rule haddress
  by_cases hempty : address.object.isEmpty = true
  · rw [if_pos hempty]
    exact hrest false (.refl site)
  · rw [if_neg hempty]
    have hblob : Yields path .gcs address.bucket [] (some (bucket.get? address.object).isSome)
        (during .getObjectMetadata path
          (return (← Client.getBlob address.bucket address.object).isSome)) site := by
      refine Yields.during (Yields.bind (Client.getBlob_yields hbucket) fun _ _ => ?_)
      exact Yields.pure _
    exact hblob.bind fun site' hrecorded => hrest _ hrecorded

theorem contents_yields :
    Yields path .gcs address.bucket [] (some (bucket.children address.object)) (contents path)
      site := by
  apply Yields.traced
  intro site' hsilent
  apply Yields.bind_rule haddress
  rw [← hsilent.cloud_eq] at hbucket
  exact (Client.listBlobs_yields hbucket).during.bind fun _ _ => Yields.pure _

theorem readBytes_yields (hne : address.object ≠ []) :
    Yields path .gcs address.bucket (Call.transfersOf .gcs address.bucket address.object)
      (bucket.content? address.object) (readBytes path) site := by
  refine Yields.traced fun site' hsilent => Yields.bind_rule haddress (Yields.during ?_)
  rw [← hsilent.cloud_eq] at hbucket
  rw [if_neg (by simpa using hne)]
  apply Yields.bind_question (Client.getBlob_yields hbucket)
  intro site'' hrecorded
  rw [Bucket.content?]
  cases bucket.get? address.object with
  | none => exact Yields.of_error rfl
  | some object => exact Yields.transfer rfl rfl fun _ _ => Yields.pure _

omit hbucket in
/-- Nothing is a directory in a bucket that is missing. -/
theorem isDirectory_missing (other : Text)
    (hmissing : site.cloud.bucket? .gcs address.bucket = none) :
    Yields other .gcs address.bucket [] none (isDirectory path) site := by
  have hlookup : Yields other .gcs address.bucket [] (some false)
      (Client.lookupBucket address.bucket) site := by
    apply Yields.ask rfl rfl
    intro site' hrecorded
    rw [← hrecorded.cloud_eq] at hmissing
    apply Yields.bind_get
    rw [hmissing]
    exact Yields.pure _
  refine Yields.bind_rule haddress (Yields.during ?_)
  exact hlookup.bind fun _ _ => Yields.of_error rfl

end Gcs

/-! ## S3 -/

namespace S3

theorem Client.bucket_yields {name : Text} (code operation : String)
    (hbucket : site.cloud.bucket? .s3 name = some bucket) :
    Yields path .s3 name [] (some bucket) (Client.bucket name code operation) site := by
  apply Yields.bind_get
  rw [hbucket]
  exact Yields.pure _

theorem Client.headBucket_yields {name : Text}
    (hbucket : site.cloud.bucket? .s3 name = some bucket) :
    Yields path .s3 name [] (some ()) (headBucket name) site := by
  apply Yields.ask rfl rfl
  intro site' hrecorded
  rw [← hrecorded.cloud_eq] at hbucket
  have hfound : Client.bucket name "404" "HeadBucket" site' = .ok bucket site' := by
    rw [Client.bucket, get_bind, hbucket]
    rfl
  exact Yields.of_ok (discard_ok hfound) (.refl site') (List.append_nil _).symm

theorem Client.listObjects_yields {name start : Text} (most token : Option Nat)
    (hbucket : site.cloud.bucket? .s3 name = some bucket) :
    Yields path .s3 name []
      (some (Page.of (bucket.keysFrom start)
        (min (most.getD site.cloud.pageSize) site.cloud.pageSize) (token.getD 0)))
      (listObjects name start most token) site := by
  apply Yields.ask rfl rfl
  intro site' hrecorded
  rw [← hrecorded.cloud_eq] at hbucket ⊢
  apply Yields.bind_question (Client.bucket_yields _ _ hbucket)
  intro site'' hrecorded'
  rw [← hrecorded'.cloud_eq]
  exact Yields.bind_get (Yields.pure _)

/-- The children of the keys behind the first ones. -/
def childrenFrom (bucket : Bucket) (directory : Text) (start : Nat) : Names :=
  Names.ofList (((bucket.keysFrom directory).drop start).filterMap (Key.child? · directory))

/-- The children of one page and of the keys behind it. -/
theorem childrenFrom_next (bucket : Bucket) (directory : Text) (start size : Nat) :
    childrenFrom bucket directory start =
      (Names.ofList ((((bucket.keysFrom directory).drop start).take size).filterMap
        (Key.child? · directory))).union (childrenFrom bucket directory (start + size)) := by
  have hcut := List.take_append_drop size ((bucket.keysFrom directory).drop start)
  apply Names.ext_mem
  intro name
  rw [childrenFrom, childrenFrom, ← List.drop_drop, Names.mem_union, Names.mem_ofList,
    Names.mem_ofList, Names.mem_ofList, ← List.mem_append, ← List.filterMap_append, hcut]

variable (path) in
/-- Page after page gathers the children of all keys that are left. -/
theorem gather_yields {name : Text} (directory : Text) (bound : Nat) (token : Option Nat)
    (found : Names)
    (hbucket : site.cloud.bucket? .s3 name = some bucket)
    (hbound : (bucket.keysFrom directory).length < token.getD 0 + bound) :
    Yields path .s3 name [] (some ((childrenFrom bucket directory (token.getD 0)).union found))
      (gather name directory bound token found) site := by
  induction bound generalizing token found site with
  | zero =>
      have hnone : (bucket.keysFrom directory).drop (token.getD 0) = [] :=
        List.drop_eq_nil_of_le (by omega)
      have hsame : (childrenFrom bucket directory (token.getD 0)).union found = found := by
        rw [childrenFrom, hnone]
        exact Names.ext_mem fun name => by simp [Names.ofList]
      rw [hsame]
      exact Yields.pure _
  | succ bound ih =>
      refine Yields.bind_question (Client.listObjects_yields none token hbucket)
        fun site' hrecorded => ?_
      have hsize := site.cloud.pageSize_pos
      rw [Option.getD_none, Nat.min_self]
      simp only [Client.Page.of]
      by_cases hmore : token.getD 0 + site.cloud.pageSize < (bucket.keysFrom directory).length
      · rw [if_pos hmore]
        dsimp only
        rw [← hrecorded.cloud_eq] at hbucket
        have hrest := @ih site' (some (token.getD 0 + site.cloud.pageSize))
          ((Names.ofList ((((bucket.keysFrom directory).drop (token.getD 0)).take
            site.cloud.pageSize).filterMap (Key.child? · directory))).union found) hbucket
          (by rw [Option.getD_some]; omega)
        rw [childrenFrom_next bucket directory (token.getD 0) site.cloud.pageSize]
        have hsame (page rest : Names) : (page.union rest).union found =
            rest.union (page.union found) := Names.ext_mem fun name => by
          simp [or_assoc, or_left_comm]
        rw [hsame]
        exact hrest
      · rw [if_neg hmore]
        dsimp only
        have hall : ((bucket.keysFrom directory).drop (token.getD 0)).take site.cloud.pageSize =
            (bucket.keysFrom directory).drop (token.getD 0) :=
          List.take_of_length_le (by rw [List.length_drop]; omega)
        rw [hall]
        exact Yields.pure _

variable {address : Address} (haddress : parse path = .ok address)
  (hbucket : site.cloud.bucket? .s3 address.bucket = some bucket)

include haddress hbucket

theorem isDirectory_yields (other : Text) :
    Yields other .s3 address.bucket [] (some (bucket.hasDirectory address.key))
      (isDirectory path) site := by
  apply Yields.bind_rule haddress
  apply Yields.bind_question (Client.headBucket_yields hbucket).during
  intro site' hrecorded
  rw [← hrecorded.cloud_eq] at hbucket
  by_cases hempty : address.key.isEmpty = true
  · rw [if_pos hempty, Bucket.hasDirectory, hempty, Bool.true_or]
    exact Yields.pure _
  · rw [if_neg hempty, bucket.hasDirectory_of_nonempty (by simpa using hempty)]
    refine Yields.bind_question (Client.listObjects_yields (some 1) none hbucket).during
      fun site'' _ => ?_
    have hsize := site'.cloud.pageSize_pos
    have hone : min ((some 1).getD site'.cloud.pageSize) site'.cloud.pageSize = 1 := by
      rw [Option.getD_some]
      omega
    rw [hone]
    cases hkeys : bucket.keysFrom (Key.asDirectory address.key) with
    | nil => exact Yields.pure _
    | cons first others => exact Yields.pure _

theorem isPresent_yields (hdirectory : bucket.hasDirectory address.key = true) :
    Yields path .s3 address.bucket [] (some true) (isPresent path) site := by
  have hfound := isDirectory_yields haddress hbucket path
  rw [hdirectory] at hfound
  exact hfound.bind fun _ _ => Yields.pure _

theorem contents_yields :
    Yields path .s3 address.bucket [] (some (bucket.children address.key)) (contents path)
      site := by
  apply Yields.traced
  intro site' hsilent
  apply Yields.bind_rule haddress
  rw [← hsilent.cloud_eq] at hbucket
  have hbound : Yields path .s3 address.bucket [] (some (bucket.length + 1))
      (pageBound address.bucket) site' := by
    apply Yields.bind_get
    rw [hbucket]
    exact Yields.pure _
  apply hbound.bind
  intro site'' hrecorded
  apply Yields.during
  rw [← hrecorded.cloud_eq] at hbucket
  have hlength := bucket.length_keysFrom_le (Key.asDirectory address.key)
  have hgather := gather_yields path (Key.asDirectory address.key) (bucket.length + 1) none .empty
    hbucket (by rw [Option.getD_none]; omega)
  have hsame : (childrenFrom bucket (Key.asDirectory address.key) ((none : Option Nat).getD 0)).union
      .empty = bucket.children address.key := Names.ext_mem fun name => by
    simp [childrenFrom, Bucket.children]
  rwa [hsame] at hgather

theorem readBytes_yields :
    Yields path .s3 address.bucket (Call.transfersOf .s3 address.bucket address.key)
      (bucket.content? address.key) (readBytes path) site := by
  apply Yields.traced
  intro site' hsilent
  apply Yields.bind_rule haddress
  rw [← hsilent.cloud_eq] at hbucket
  have hfetch : Yields path .s3 address.bucket [.getObject address.bucket address.key]
      (bucket.content? address.key) (fetch path address) site' := by
    refine Yields.recover (fun failure site => ?_) ?_
    · cases failure with
      | fault fault => exact ⟨_, _, rfl⟩
      | incident incident =>
          cases hmissing : Client.isMissing incident with
          | error other => exact ⟨.incident other, site, by simp only [hmissing]; rfl⟩
          | ok missing => cases missing <;> exact ⟨_, site, by simp only [hmissing]; rfl⟩
    · apply Yields.transfer rfl rfl
      intro site'' hrecorded
      rw [← hrecorded.cloud_eq] at hbucket
      apply Yields.bind_question (Client.bucket_yields _ _ hbucket)
      intro _ _
      rw [Bucket.content?]
      cases bucket.get? address.key with
      | none => exact Yields.of_error rfl
      | some object => exact Yields.pure _
  cases hcontent : bucket.content? address.key with
  | none =>
      rw [hcontent] at hfetch
      exact hfetch.bind_none
  | some content =>
      rw [hcontent] at hfetch
      apply hfetch.bind
      intro site'' _
      apply Yields.during
      exact Yields.transfer rfl rfl fun _ _ => Yields.pure _

omit hbucket in
/-- Nothing is a directory in a bucket that is missing. -/
theorem isDirectory_missing (other : Text)
    (hmissing : site.cloud.bucket? .s3 address.bucket = none) :
    Yields other .s3 address.bucket [] none (isDirectory path) site := by
  have hhead : Yields other .s3 address.bucket [] none (Client.headBucket address.bucket) site := by
    apply Yields.ask rfl rfl
    intro site' hrecorded
    rw [← hrecorded.cloud_eq] at hmissing
    have hrefused : Client.bucket address.bucket "404" "HeadBucket" site' =
        .error (.incident (Client.refusal "404" "HeadBucket")) site' := by
      rw [Client.bucket, get_bind, hmissing]
      rfl
    exact Yields.of_error (discard_error hrefused)
  exact Yields.bind_rule haddress hhead.during.bind_none

end S3

/-! ## Azure -/

namespace Azure

theorem Client.container?_yields {name : Text}
    (hbucket : site.cloud.bucket? .azure name = some bucket) :
    Yields path .azure name [] (some (some bucket)) (container? name) site := by
  apply Yields.bind_get
  rw [hbucket]
  exact Yields.pure _

theorem Client.containerExists_yields {name : Text}
    (hbucket : site.cloud.bucket? .azure name = some bucket) :
    Yields path .azure name [] (some true) (containerExists name) site := by
  apply Yields.ask rfl rfl
  intro site' hrecorded
  rw [← hrecorded.cloud_eq] at hbucket
  exact Yields.bind_question (Client.container?_yields hbucket) fun _ _ => Yields.pure _

theorem Client.walkBlobs_yields {name : Text} (start : Option Text)
    (hbucket : site.cloud.bucket? .azure name = some bucket) :
    Yields path .azure name [] (some (bucket.stepsFrom (start.getD []))) (walkBlobs name start)
      site := by
  apply Yields.ask rfl rfl
  intro site' hrecorded
  rw [← hrecorded.cloud_eq] at hbucket
  exact Yields.bind_question (Client.container?_yields hbucket) fun _ _ => Yields.pure _

theorem Client.blobExists_yields {name key : Text}
    (hbucket : site.cloud.bucket? .azure name = some bucket) :
    Yields path .azure name [] (some (bucket.get? key).isSome) (blobExists name key) site := by
  apply Yields.ask rfl rfl
  intro site' hrecorded
  rw [← hrecorded.cloud_eq] at hbucket
  exact Yields.bind_question (Client.container?_yields hbucket) fun _ _ => Yields.pure _

variable (path) in
theorem Client.downloadBlob_yields {name : Text} (key : Text)
    (hbucket : site.cloud.bucket? .azure name = some bucket) :
    Yields path .azure name [.downloadBlob name key] (bucket.content? key) (downloadBlob name key)
      site := by
  apply Yields.transfer rfl rfl
  intro site' hrecorded
  rw [← hrecorded.cloud_eq] at hbucket
  have hblob : Yields path .azure name [] (bucket.get? key) (Client.blob name key) site' := by
    refine Yields.bind_question (Client.container?_yields hbucket) fun _ _ => ?_
    rw [Option.bind_some]
    cases bucket.get? key with
    | none => exact Yields.of_error rfl
    | some object => exact Yields.pure _
  rw [Bucket.content?]
  cases hobject : bucket.get? key with
  | none =>
      rw [hobject] at hblob
      exact hblob.bind_none
  | some object =>
      rw [hobject] at hblob
      exact hblob.bind fun _ _ => Yields.pure _

variable {address : Address} (haddress : parse path = .ok address)
  (hbucket : site.cloud.bucket? .azure address.container = some bucket)

include haddress hbucket

theorem isDirectory_yields (other : Text) :
    Yields other .azure address.container [] (some (bucket.hasDirectory address.blob))
      (isDirectory path) site := by
  refine Yields.bind_rule haddress (Yields.during ?_)
  by_cases hempty : address.blob.isEmpty = true
  · rw [if_pos hempty, Bucket.hasDirectory, hempty, Bool.true_or]
    exact Client.containerExists_yields hbucket
  · rw [if_neg hempty, bucket.hasDirectory_of_nonempty (by simpa using hempty),
      ← bucket.isEmpty_stepsFrom]
    exact Yields.bind_question (Client.walkBlobs_yields _ hbucket) fun _ _ => Yields.pure _

theorem isPresent_yields (hdirectory : bucket.hasDirectory address.blob = true) :
    Yields path .azure address.container [] (some true) (isPresent path) site := by
  have hrest (isBlob : Bool) {site' : Site} (hrecorded : Site.Recorded site site') :
      Yields path .azure address.container [] (some true)
        (if isBlob then pure true else isDirectory path) site' := by
    cases isBlob with
    | true => exact Yields.pure _
    | false =>
        rw [← hrecorded.cloud_eq] at hbucket
        have hfound := isDirectory_yields haddress hbucket path
        rwa [hdirectory] at hfound
  apply Yields.bind_rule haddress
  by_cases hempty : address.blob.isEmpty = true
  · rw [if_pos hempty]
    exact hrest false (.refl site)
  · rw [if_neg hempty]
    apply Yields.bind_question (Client.blobExists_yields hbucket).during
    exact fun site' hrecorded => hrest _ hrecorded

theorem walk_yields :
    Yields path .azure address.container []
      (some ((bucket.stepsFrom (Key.asDirectory address.blob)).toList.filterMap
        (childOf? (Key.asDirectory address.blob)))) (walk path) site := by
  have hstart : (if (Key.asDirectory address.blob).isEmpty then none
      else some (Key.asDirectory address.blob)).getD [] = Key.asDirectory address.blob := by
    cases Key.asDirectory address.blob with
    | nil => rfl
    | cons c rest => rfl
  refine Yields.bind_rule haddress (Yields.during ?_)
  apply Yields.bind_question (Client.walkBlobs_yields _ hbucket)
  intro _ _
  rw [hstart]
  exact Yields.pure _

theorem contents_yields :
    Yields path .azure address.container [] (some (bucket.children address.blob)) (contents path)
      site := by
  apply Yields.traced
  intro site' hsilent
  rw [← hsilent.cloud_eq] at hbucket
  apply (walk_yields haddress hbucket).bind
  intro site'' _
  have hnames (step : Text) : (childOf? (Key.asDirectory address.blob) step).map (·.name) =
      Key.child? step (Key.asDirectory address.blob) := by
    rw [childOf?, Option.map_map]
    exact congrFun Option.map_id _
  rw [← bucket.children_stepsFrom, List.map_filterMap]
  simp only [hnames]
  exact Yields.pure _

theorem readBytes_yields (hne : address.blob ≠ []) :
    Yields path .azure address.container (Call.transfersOf .azure address.container address.blob)
      (bucket.content? address.blob) (readBytes path) site := by
  apply Yields.traced
  intro site' hsilent
  apply Yields.bind_rule haddress
  rw [← hsilent.cloud_eq] at hbucket
  rw [if_neg (by simpa using hne)]
  apply Yields.wrapping
  have hdownload := Client.downloadBlob_yields path address.blob hbucket
  cases hcontent : bucket.content? address.blob with
  | none =>
      rw [hcontent] at hdownload
      exact hdownload.bind_none
  | some content =>
      rw [hcontent] at hdownload
      exact hdownload.bind fun _ _ => Yields.transfer rfl rfl fun _ _ => Yields.pure _

omit hbucket in
/-- Nothing is a directory in a container that is missing, whether it is asked for itself or not. -/
theorem isDirectory_missing (other : Text)
    (hmissing : site.cloud.bucket? .azure address.container = none) :
    Yields other .azure address.container [] (if address.blob.isEmpty then some false else none)
      (isDirectory path) site := by
  have hlookup {site' : Site} (hrecorded : Site.Recorded site site') :
      Yields other .azure address.container [] (some none)
        (Client.container? address.container) site' := by
    rw [← hrecorded.cloud_eq] at hmissing
    apply Yields.bind_get
    rw [hmissing]
    exact Yields.pure _
  refine Yields.bind_rule haddress (Yields.during ?_)
  by_cases hempty : address.blob.isEmpty = true
  · rw [if_pos hempty, if_pos hempty]
    apply Yields.ask rfl rfl
    exact fun site' hrecorded => Yields.bind_question (hlookup hrecorded) fun _ _ => Yields.pure _
  · rw [if_neg hempty, if_neg hempty]
    have hwalk : Yields other .azure address.container [] none (Client.walkBlobs address.container
        (some (Key.asDirectory address.blob))) site := by
      apply Yields.ask rfl rfl
      exact fun site' hrecorded =>
        Yields.bind_question (hlookup hrecorded) fun _ _ => Yields.of_error rfl
    exact hwalk.bind_none

end Azure

/-! ## All object stores -/

namespace Backend

/-- In a bucket that is missing nothing is a directory; mostly the question is refused. -/
theorem isDirectory_missing (other : Text) {kind : Kind} {name key : Text} (hkind : kind ≠ .disk)
    (haddress : addressOf kind path = .ok (name, key))
    (hmissing : site.cloud.bucket? kind name = none) :
    Yields other kind name [] (if kind = .azure ∧ key = [] then some false else none)
      (isDirectory kind path) site := by
  cases kind with
  | disk => exact absurd rfl hkind
  | gcs =>
      obtain ⟨address, hparse, heq⟩ := map_ok_iff.1 haddress
      cases heq
      exact Gcs.isDirectory_missing hparse other hmissing
  | s3 =>
      obtain ⟨address, hparse, heq⟩ := map_ok_iff.1 haddress
      cases heq
      exact S3.isDirectory_missing hparse other hmissing
  | azure =>
      obtain ⟨address, hparse, heq⟩ := map_ok_iff.1 haddress
      cases heq
      have hyields := Azure.isDirectory_missing hparse other hmissing
      simp only [List.isEmpty_iff] at hyields
      simp only [true_and]
      exact hyields

/-- A path that names a directory lies in a bucket that is there. -/
theorem bucket_of_isDirectory {kind : Kind} {name key : Text} {site' : Site} (hkind : kind ≠ .disk)
    (haddress : addressOf kind path = .ok (name, key))
    (h : isDirectory kind path site = .ok true site') :
    ∃ bucket, site.cloud.bucket? kind name = some bucket := by
  cases hbucket : site.cloud.bucket? kind name with
  | some bucket => exact ⟨bucket, rfl⟩
  | none =>
      have hvalue := ((isDirectory_missing path hkind haddress hbucket).ok h).1
      split at hvalue <;> cases hvalue

/-- A path without an address is refused. -/
theorem isDirectory_malformed {kind : Kind} (hkind : kind ≠ .disk) {fault : Fault}
    (h : addressOf kind path = .error fault) (site : Site) :
    isDirectory kind path site = .error (.fault fault) site := by
  cases kind with
  | disk => exact absurd rfl hkind
  | gcs =>
      have hparse := map_error_iff.1 h
      rw [isDirectory, Gcs.isDirectory, hparse]
      rfl
  | s3 =>
      have hparse := map_error_iff.1 h
      rw [isDirectory, S3.isDirectory, hparse]
      rfl
  | azure =>
      have hparse := map_error_iff.1 h
      rw [isDirectory, Azure.isDirectory, hparse]
      rfl

variable {kind : Kind} {name key : Text} (hkind : kind ≠ .disk)
  (haddress : addressOf kind path = .ok (name, key))
  (hbucket : site.cloud.bucket? kind name = some bucket)

include hkind haddress hbucket

/-- Whether a path names a directory is read off the keys of its bucket. -/
theorem isDirectory_yields (other : Text) :
    Yields other kind name [] (some (bucket.hasDirectory key)) (isDirectory kind path) site := by
  cases kind with
  | disk => exact absurd rfl hkind
  | gcs =>
      obtain ⟨address, hparse, heq⟩ := map_ok_iff.1 haddress
      cases heq
      exact Gcs.isDirectory_yields hparse hbucket other
  | s3 =>
      obtain ⟨address, hparse, heq⟩ := map_ok_iff.1 haddress
      cases heq
      exact S3.isDirectory_yields hparse hbucket other
  | azure =>
      obtain ⟨address, hparse, heq⟩ := map_ok_iff.1 haddress
      cases heq
      exact Azure.isDirectory_yields hparse hbucket other

/-- What is a directory is there. -/
theorem isPresent_yields (hdirectory : bucket.hasDirectory key = true) :
    Yields path kind name [] (some true) (isPresent kind path) site := by
  cases kind with
  | disk => exact absurd rfl hkind
  | gcs =>
      obtain ⟨address, hparse, heq⟩ := map_ok_iff.1 haddress
      cases heq
      exact Gcs.isPresent_yields hparse hbucket hdirectory
  | s3 =>
      obtain ⟨address, hparse, heq⟩ := map_ok_iff.1 haddress
      cases heq
      exact S3.isPresent_yields hparse hbucket hdirectory
  | azure =>
      obtain ⟨address, hparse, heq⟩ := map_ok_iff.1 haddress
      cases heq
      exact Azure.isPresent_yields hparse hbucket hdirectory

/-- The names in a directory are read off the keys of its bucket. -/
theorem contents_yields :
    Yields path kind name [] (some (bucket.children key)) (contents kind path) site := by
  cases kind with
  | disk => exact absurd rfl hkind
  | gcs =>
      obtain ⟨address, hparse, heq⟩ := map_ok_iff.1 haddress
      cases heq
      exact Gcs.contents_yields hparse hbucket
  | s3 =>
      obtain ⟨address, hparse, heq⟩ := map_ok_iff.1 haddress
      cases heq
      exact S3.contents_yields hparse hbucket
  | azure =>
      obtain ⟨address, hparse, heq⟩ := map_ok_iff.1 haddress
      cases heq
      exact Azure.contents_yields hparse hbucket

/-- The content of a file is that of the object under its key, which is transferred for it. -/
theorem readBytes_yields (hne : key ≠ []) :
    Yields path kind name (Call.transfersOf kind name key) (bucket.content? key)
      (readBytes kind path)
      site := by
  cases kind with
  | disk => exact absurd rfl hkind
  | gcs =>
      obtain ⟨address, hparse, heq⟩ := map_ok_iff.1 haddress
      cases heq
      exact Gcs.readBytes_yields hparse hbucket hne
  | s3 =>
      obtain ⟨address, hparse, heq⟩ := map_ok_iff.1 haddress
      cases heq
      exact S3.readBytes_yields hparse hbucket
  | azure =>
      obtain ⟨address, hparse, heq⟩ := map_ok_iff.1 haddress
      cases heq
      exact Azure.readBytes_yields hparse hbucket hne

end Backend

end ArtifactDepot
