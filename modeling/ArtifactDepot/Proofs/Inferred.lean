import ArtifactDepot.Proofs.Complete
import ArtifactDepot.Proofs.Gives
import ArtifactDepot.Proofs.Instants

/-!
# Inferred directories

Object stores have keys and no directories.  What the operations of a remote
backend answer about a canonical path is read off the keys of its bucket in
one way for all kinds, however differently they ask: `Bucket.IsDirectory`,
`Bucket.IsPresent`, `Bucket.Lists` and `Bucket.time?` are this reading, and
`Locus.inferred_from_keys` says that the backends give it.
-/

namespace ArtifactDepot

open Text (slash)
open ArtifactDepot.Action

/-! ## What is read off keys -/

namespace Bucket

variable {objects : Bucket} {key name : Text}

/-- A directory is the bucket itself, or what some key continues. -/
def IsDirectory (objects : Bucket) (key : Text) : Prop := key = [] ∨ objects.Continues key

/-- A path is there if it is a directory or the key of an object. -/
def IsPresent (objects : Bucket) (key : Text) : Prop :=
  objects.IsDirectory key ∨ key ≠ [] ∧ key ∈ objects.keys

/-- The name is the first component of what remains of some key behind the directory. -/
def Lists (objects : Bucket) (key name : Text) : Prop :=
  name ≠ [] ∧ ∃ rest, (if key = [] then [] else key ++ [slash]) ++ rest ∈ objects.keys ∧
    rest.takeWhile (· != slash) = name

instance (objects : Bucket) (key : Text) : Decidable (objects.IsDirectory key) :=
  inferInstanceAs (Decidable (key = [] ∨ objects.Continues key))

instance (objects : Bucket) (key : Text) : Decidable (objects.IsPresent key) :=
  inferInstanceAs (Decidable (objects.IsDirectory key ∨ key ≠ [] ∧ key ∈ objects.keys))

/-- The time of a directory is zero, and that of an object the one of its last change. -/
def time? (objects : Bucket) (key : Text) : Option Int :=
  if objects.IsDirectory key then some 0
  else (objects.get? key).map (fun object => object.updated.nanoseconds)

/-- Of an object whose last change was at a moment that is not late the time is exact. -/
theorem time?_eq {object : Object} (hkey : ¬ objects.IsDirectory key)
    (hobject : objects.get? key = some object) (hvalid : object.updated.IsValid)
    (hintime : ¬ object.updated.IsLate) :
    objects.time? key = some (1000 * object.updated.microseconds) := by
  rw [time?, if_neg hkey, hobject, Option.map_some, Moment.nanoseconds_eq hvalid, if_neg hintime,
    Int.add_zero]

/-- An object is found under a key exactly if there is that key. -/
theorem get?_isSome : (objects.get? key).isSome = true ↔ key ∈ objects.keys := by
  rw [← content?_isSome, content?, Option.isSome_map]

theorem asDirectory_eq_ite (hclosed : Path.endsOpen key = false) :
    Key.asDirectory key = if key = [] then [] else key ++ [slash] := by
  by_cases hempty : key = []
  · rw [hempty]
    rfl
  · rw [if_neg hempty, Key.asDirectory_eq hempty hclosed]

/-- A listing below a key finds something exactly if the key is a directory. -/
theorem hasDirectory_eq (hclosed : Path.endsOpen key = false) :
    objects.hasDirectory key = decide (objects.IsDirectory key) := by
  rw [Bool.eq_iff_iff, decide_eq_true_eq]
  by_cases hempty : key = []
  · simp [hempty, hasDirectory, IsDirectory]
  · rw [hasDirectory_iff hempty hclosed, IsDirectory, or_iff_right hempty]

/-- The empty key is there because it is a directory. -/
theorem isPresent_eq_isDirectory (h : key = []) :
    decide (objects.IsPresent key) = decide (objects.IsDirectory key) :=
  decide_eq_decide.2 (or_iff_left fun hobject => hobject.1 h)

/-- A key is there if it is a directory or there is an object under it. -/
theorem isPresent_eq_or :
    decide (objects.IsPresent key) =
      (decide (objects.IsDirectory key) || (objects.get? key).isSome) := by
  by_cases hempty : key = []
  · -- What is under the empty key does not matter.
    have hdirectory : objects.IsDirectory key := Or.inl hempty
    rw [isPresent_eq_isDirectory hempty, decide_eq_true hdirectory, Bool.true_or]
  · rw [Bool.eq_iff_iff, Bool.or_eq_true, decide_eq_true_eq, decide_eq_true_eq, get?_isSome,
      IsPresent, and_iff_right hempty]

/-- The names that are gathered from a listing are those that the keys list. -/
theorem mem_children_iff_lists (hclosed : Path.endsOpen key = false) :
    name ∈ objects.children key ↔ objects.Lists key name := by
  simp only [children, Names.mem_ofList, List.mem_filterMap, mem_keysFrom, Lists,
    ← asDirectory_eq_ite hclosed]
  constructor
  · rintro ⟨found, ⟨hmem, rest, rfl⟩, hchild⟩
    refine ⟨(Key.child?_solid hchild).1, rest, hmem, ?_⟩
    rw [Key.child?, Text.afterPrefix?_eq_some_iff.2 rfl] at hchild
    dsimp only at hchild
    split at hchild
    · cases hchild
    · exact Option.some.inj hchild
  · rintro ⟨hne, rest, hmem, hname⟩
    refine ⟨_, ⟨hmem, List.prefix_append _ _⟩, ?_⟩
    rw [Key.child?, Text.afterPrefix?_eq_some_iff.2 rfl]
    dsimp only
    rw [hname, if_neg (by simpa using hne)]

/-- A name is listed exactly if the key that it makes with those before it is there. -/
theorem lists_iff_isPresent {names : List Text} (hnames : Text.Solid names)
    (hname : name ≠ [] ∧ slash ∉ name) :
    objects.Lists (Text.join names) name ↔ objects.IsPresent (Text.join (names ++ [name])) := by
  have hclosed := Path.endsOpen_join hnames
  have hkey : Key.asDirectory (Text.join names) ++ name = Text.join (names ++ [name]) := by
    rw [← Key.below_join hnames, Key.below_eq (List.cons_ne_nil _ _)]
    rfl
  have hne : Text.join (names ++ [name]) ≠ [] := fun hempty => by
    have hsolid := hnames.append (Text.Solid.singleton hname)
    simpa using (Text.join_eq_nil hsolid).1 hempty
  rw [← mem_children_iff_lists hclosed, mem_children_iff, hkey, and_iff_right hname]
  simp only [Holds, IsPresent, IsDirectory, hne, false_or, ne_eq, not_false_eq_true, true_and]
  exact or_comm

end Bucket

/-- The time of a directory is known, and for other keys their objects are asked for. -/
theorem Bucket.time?_gives {kind : Kind} {name key : Text} {objects : Bucket} {fault : Fault}
    {isDirectory : Action Bool} {rest : Action Int} {site : Site}
    (h : Gives kind name (.ok (decide (objects.IsDirectory key))) isDirectory site)
    (hrest : ∀ site', Site.Recorded site site' → Gives kind name
      (foundOr fault ((objects.get? key).map (fun object => object.updated.nanoseconds)))
      rest site') :
    Gives kind name (foundOr fault (objects.time? key))
      (isDirectory >>= fun isDirectory => if isDirectory then pure 0 else rest) site := by
  refine h.bind fun site' hrecorded => ?_
  by_cases hdirectory : objects.IsDirectory key
  · rw [decide_eq_true hdirectory, if_pos rfl, time?, if_pos hdirectory]
    exact .pure 0
  · rw [decide_eq_false hdirectory, if_neg Bool.false_ne_true, time?, if_neg hdirectory]
    exact hrest site' hrecorded

section Stores

variable {path : Text} {objects : Bucket} {site : Site}

/-! ## Cloud Storage -/

namespace Gcs

section Requests

variable {name : Text} (hbucket : site.cloud.bucket? .gcs name = some objects)

include hbucket

theorem Client.lookupBucket_gives : Gives .gcs name (.ok true) (lookupBucket name) site := by
  refine Gives.request rfl fun site' hcloud => ?_
  rw [get_bind, hcloud, hbucket]
  rfl

theorem Client.listBlobs_gives (start : Text) (most : Option Nat) :
    Gives .gcs name
      (.ok ((most.map (objects.keysFrom start).take).getD (objects.keysFrom start)))
      (listBlobs name start most) site := by
  refine Gives.request rfl fun site' hcloud => ?_
  rw [get_bind, hcloud, hbucket]
  rfl

theorem Client.getBlob_gives (key : Text) :
    Gives .gcs name (.ok (objects.get? key)) (getBlob name key) site := by
  refine Gives.request rfl fun site' hcloud => ?_
  rw [get_bind, hcloud, hbucket]
  rfl

end Requests

variable {address : Address} (haddress : parse path = .ok address)
  (hclosed : Path.endsOpen address.object = false)
  (hbucket : site.cloud.bucket? .gcs address.bucket = some objects)

include haddress hclosed hbucket

theorem isDirectory_gives :
    Gives .gcs address.bucket (.ok (decide (objects.IsDirectory address.object)))
      (isDirectory path) site := by
  rw [← Bucket.hasDirectory_eq hclosed]
  refine Gives.bind_rule haddress (Gives.during ?_)
  refine (Client.lookupBucket_gives hbucket).bind fun site' hrecorded => ?_
  dsimp only
  rw [if_neg (by decide)]
  by_cases hempty : address.object.isEmpty = true
  · rw [if_pos hempty, Bucket.hasDirectory, hempty, Bool.true_or]
    exact .pure _
  · rw [if_neg hempty, objects.hasDirectory_of_nonempty (by simpa using hempty)]
    rw [← hrecorded.cloud_eq] at hbucket
    refine (Client.listBlobs_gives hbucket _ _).bind fun _ _ => ?_
    cases objects.keysFrom (Key.asDirectory address.object) with
    | nil => exact .pure _
    | cons first others => exact .pure _

theorem isPresent_gives :
    Gives .gcs address.bucket (.ok (decide (objects.IsPresent address.object)))
      (isPresent path) site := by
  apply Gives.bind_rule haddress
  by_cases hempty : address.object = []
  · rw [if_pos (by simpa using hempty), Bucket.isPresent_eq_isDirectory hempty]
    exact isDirectory_gives haddress hclosed hbucket
  · rw [if_neg (by simpa using hempty), Bucket.isPresent_eq_or, Bool.or_comm]
    have hblob : Gives .gcs address.bucket (.ok (objects.get? address.object).isSome)
        (during .getObjectMetadata path
          (return (← Client.getBlob address.bucket address.object).isSome)) site :=
      Gives.during ((Client.getBlob_gives hbucket _).bind fun _ _ => .pure _)
    refine hblob.bind fun site' hrecorded => .or ?_
    rw [← hrecorded.cloud_eq] at hbucket
    exact isDirectory_gives haddress hclosed hbucket

theorem modified_gives :
    Gives .gcs address.bucket
      (foundOr (.missing .object path none) (objects.time? address.object))
      (modified path) site := by
  refine Bucket.time?_gives (isDirectory_gives haddress hclosed hbucket) fun site' hrecorded => ?_
  rw [← hrecorded.cloud_eq] at hbucket
  apply Gives.bind_rule haddress
  refine (Client.getBlob_gives hbucket _).during.bind fun _ _ => ?_
  cases objects.get? address.object with
  | none => exact .throw _
  | some object => exact .pure _

omit hclosed in
/-- What is under no key cannot be read. -/
theorem readBytes_missing (hne : address.object ≠ []) (hpassable : Trace.Passable site path)
    (hmissing : objects.get? address.object = none) :
    Gives .gcs address.bucket (.error (.fault (.missing .file path none))) (readBytes path)
      site := by
  refine Gives.traced hpassable fun site' hrecorded => ?_
  rw [← hrecorded.cloud_eq] at hbucket
  refine Gives.bind_rule haddress (Gives.during_fault ?_)
  rw [if_neg (by simpa using hne)]
  refine (Client.getBlob_gives hbucket _).bind fun _ _ => ?_
  rw [hmissing]
  exact .throw _

end Gcs

/-! ## S3 -/

namespace S3

section Requests

variable {name : Text} (hbucket : site.cloud.bucket? .s3 name = some objects)

include hbucket

theorem Client.bucket_eq (code operation : String) :
    Client.bucket name code operation site = .ok objects site := by
  rw [Client.bucket, get_bind, hbucket]
  rfl

theorem Client.headBucket_gives : Gives .s3 name (.ok ()) (headBucket name) site := by
  refine Gives.request rfl fun site' hcloud => ?_
  rw [← hcloud] at hbucket
  exact discard_ok (bucket_eq hbucket _ _)

theorem Client.listObjects_gives (start : Text) (most token : Option Nat) :
    Gives .s3 name
      (.ok (.of (objects.keysFrom start) (min (most.getD site.cloud.pageSize) site.cloud.pageSize)
        (token.getD 0)))
      (listObjects name start most token) site := by
  refine Gives.request rfl fun site' hcloud => ?_
  rw [← hcloud] at hbucket ⊢
  rw [bind_ok (bucket_eq hbucket _ _)]
  rfl

/-- The object is asked for and found, or the request is refused. -/
theorem Client.headObject_gives (key : Text) :
    Gives .s3 name
      (((objects.get? key).map (·.updated)).elim
        (.error (.incident (refusal "404" "HeadObject"))) .ok)
      (headObject name key) site := by
  refine Gives.request rfl fun site' hcloud => ?_
  rw [← hcloud] at hbucket
  rw [bind_ok (bucket_eq hbucket _ _)]
  cases objects.get? key with
  | none => rfl
  | some object => rfl

theorem Client.getObject_missing {key : Text} (hmissing : objects.get? key = none) :
    Gives .s3 name (.error (.incident (refusal "NoSuchKey" "GetObject"))) (getObject name key)
      site := by
  refine Gives.request rfl fun site' hcloud => ?_
  rw [← hcloud] at hbucket
  rw [bind_ok (bucket_eq hbucket _ _), hmissing]
  rfl

end Requests

/-- A refusal with one of their codes says that an object is not there. -/
theorem Client.isMissing_refusal {code : String} (operation : String)
    (h : code.toList ∈ missingCodes) : isMissing (refusal code operation) = .ok true := by
  have hcode : (some code.toList).any missingCodes.contains = true := by simpa using h
  exact congrArg Except.ok hcode

variable {address : Address} (haddress : parse path = .ok address)
  (hclosed : Path.endsOpen address.key = false)
  (hbucket : site.cloud.bucket? .s3 address.bucket = some objects)

include hbucket

theorem headObject?_gives :
    Gives .s3 address.bucket (.ok ((objects.get? address.key).map (·.updated)))
      (headObject? path address) site := by
  have hhead := Client.headObject_gives hbucket address.key
  cases hobject : objects.get? address.key with
  | none =>
      rw [hobject] at hhead
      refine Gives.recover_error hhead.bind_error fun site' => ?_
      exact Gives.bind_call (Client.isMissing_refusal _ (by decide)) (.pure none)
  | some object =>
      rw [hobject] at hhead
      exact Gives.recover (hhead.bind fun _ _ => .pure _)

include haddress hclosed

theorem isDirectory_gives :
    Gives .s3 address.bucket (.ok (decide (objects.IsDirectory address.key))) (isDirectory path)
      site := by
  rw [← Bucket.hasDirectory_eq hclosed]
  apply Gives.bind_rule haddress
  refine (Client.headBucket_gives hbucket).during.bind fun site' hrecorded => ?_
  rw [← hrecorded.cloud_eq] at hbucket
  by_cases hempty : address.key.isEmpty = true
  · rw [if_pos hempty, Bucket.hasDirectory, hempty, Bool.true_or]
    exact .pure _
  · rw [if_neg hempty, objects.hasDirectory_of_nonempty (by simpa using hempty)]
    refine (Client.listObjects_gives hbucket _ (some 1) none).during.bind fun _ _ => ?_
    have hsize := site'.cloud.pageSize_pos
    have hone : min ((some 1).getD site'.cloud.pageSize) site'.cloud.pageSize = 1 := by
      rw [Option.getD_some]
      omega
    rw [hone]
    cases objects.keysFrom (Key.asDirectory address.key) with
    | nil => exact .pure _
    | cons first others => exact .pure _

theorem isPresent_gives :
    Gives .s3 address.bucket (.ok (decide (objects.IsPresent address.key))) (isPresent path)
      site := by
  rw [Bucket.isPresent_eq_or]
  refine (isDirectory_gives haddress hclosed hbucket).bind fun site' hrecorded => .or ?_
  rw [← hrecorded.cloud_eq] at hbucket
  refine Gives.bind_rule haddress ((headObject?_gives hbucket).bind fun _ _ => ?_)
  rw [Option.isSome_map]
  exact .pure _

theorem modified_gives :
    Gives .s3 address.bucket
      (foundOr (.missing .object path none) (objects.time? address.key)) (modified path)
      site := by
  refine Bucket.time?_gives (isDirectory_gives haddress hclosed hbucket) fun site' hrecorded => ?_
  rw [← hrecorded.cloud_eq] at hbucket
  refine Gives.bind_rule haddress ((headObject?_gives hbucket).bind fun _ _ => ?_)
  cases objects.get? address.key with
  | none => exact .throw _
  | some object => exact .pure _

omit hclosed in
/-- What is under no key cannot be read. -/
theorem readBytes_missing (hpassable : Trace.Passable site path)
    (hmissing : objects.get? address.key = none) :
    Gives .s3 address.bucket
      (.error (.fault (.missing .file path (some (Client.refusal "NoSuchKey" "GetObject")))))
      (readBytes path) site := by
  refine Gives.traced hpassable fun site' hrecorded => ?_
  rw [← hrecorded.cloud_eq] at hbucket
  refine Gives.bind_rule haddress (Gives.bind_error ?_)
  refine Gives.recover_error (Client.getObject_missing hbucket hmissing) fun _ => ?_
  exact Gives.bind_call (Client.isMissing_refusal _ (by decide)) (.throw _)

end S3

/-! ## Azure -/

namespace Azure

section Requests

variable {name : Text} (hbucket : site.cloud.bucket? .azure name = some objects)

include hbucket

theorem Client.container?_eq : container? name site = .ok (some objects) site := by
  rw [container?, get_bind, hbucket]
  rfl

theorem Client.containerExists_gives :
    Gives .azure name (.ok true) (containerExists name) site := by
  refine Gives.request rfl fun site' hcloud => ?_
  rw [← hcloud] at hbucket
  rw [bind_ok (container?_eq hbucket)]
  rfl

theorem Client.walkBlobs_gives (start : Option Text) :
    Gives .azure name (.ok (objects.stepsFrom (start.getD []))) (walkBlobs name start) site := by
  refine Gives.request rfl fun site' hcloud => ?_
  rw [← hcloud] at hbucket
  rw [bind_ok (container?_eq hbucket)]
  rfl

theorem Client.blobExists_gives (key : Text) :
    Gives .azure name (.ok (objects.get? key).isSome) (blobExists name key) site := by
  refine Gives.request rfl fun site' hcloud => ?_
  rw [← hcloud] at hbucket
  rw [bind_ok (container?_eq hbucket)]
  rfl

/-- A blob that is there is handed on, and the lack of it is a refusal. -/
theorem Client.blob_eq (key : Text) :
    Client.blob name key site =
      finish ((objects.get? key).elim (.error (.incident notFound)) .ok) site := by
  rw [Client.blob, bind_ok (container?_eq hbucket), Option.bind_some]
  cases objects.get? key with
  | none => rfl
  | some object => rfl

theorem Client.getProperties_gives (key : Text) :
    Gives .azure name
      (((objects.get? key).map (·.updated)).elim (.error (.incident notFound)) .ok)
      (getProperties name key) site := by
  refine Gives.request rfl fun site' hcloud => ?_
  rw [← hcloud] at hbucket
  have hblob := blob_eq hbucket key
  cases hobject : objects.get? key with
  | none =>
      rw [hobject] at hblob
      exact bind_error hblob
  | some object =>
      rw [hobject] at hblob
      exact bind_ok hblob

theorem Client.downloadBlob_missing {key : Text} (hmissing : objects.get? key = none) :
    Gives .azure name (.error (.incident notFound)) (downloadBlob name key) site := by
  refine Gives.request rfl fun site' hcloud => ?_
  rw [← hcloud] at hbucket
  have hblob := Client.blob_eq hbucket key
  rw [hmissing] at hblob
  exact bind_error hblob

end Requests

variable {address : Address} (haddress : parse path = .ok address)
  (hclosed : Path.endsOpen address.blob = false)
  (hbucket : site.cloud.bucket? .azure address.container = some objects)

include haddress hclosed hbucket

theorem isDirectory_gives :
    Gives .azure address.container (.ok (decide (objects.IsDirectory address.blob)))
      (isDirectory path) site := by
  rw [← Bucket.hasDirectory_eq hclosed]
  refine Gives.bind_rule haddress (Gives.during ?_)
  by_cases hempty : address.blob.isEmpty = true
  · rw [if_pos hempty, Bucket.hasDirectory, hempty, Bool.true_or]
    exact Client.containerExists_gives hbucket
  · rw [if_neg hempty, objects.hasDirectory_of_nonempty (by simpa using hempty),
      ← objects.isEmpty_stepsFrom]
    exact (Client.walkBlobs_gives hbucket _).bind fun _ _ => .pure _

theorem isPresent_gives :
    Gives .azure address.container (.ok (decide (objects.IsPresent address.blob)))
      (isPresent path) site := by
  apply Gives.bind_rule haddress
  by_cases hempty : address.blob = []
  · rw [if_pos (by simpa using hempty), Bucket.isPresent_eq_isDirectory hempty]
    exact isDirectory_gives haddress hclosed hbucket
  · rw [if_neg (by simpa using hempty), Bucket.isPresent_eq_or, Bool.or_comm]
    refine (Client.blobExists_gives hbucket _).during.bind fun site' hrecorded => .or ?_
    rw [← hrecorded.cloud_eq] at hbucket
    exact isDirectory_gives haddress hclosed hbucket

theorem modified_gives :
    Gives .azure address.container
      (foundOr (.missing .blob path (some Client.notFound)) (objects.time? address.blob))
      (modified path) site := by
  refine Bucket.time?_gives (isDirectory_gives haddress hclosed hbucket) fun site' hrecorded => ?_
  rw [← hrecorded.cloud_eq] at hbucket
  apply Gives.bind_rule haddress
  have hproperties := Client.getProperties_gives hbucket address.blob
  cases hobject : objects.get? address.blob with
  | none =>
      rw [hobject] at hproperties
      exact hproperties.wrapping_incident.bind_error
  | some object =>
      rw [hobject] at hproperties
      exact Gives.bind hproperties.recover fun _ _ => .pure _

omit hclosed in
/-- What is under no key cannot be read. -/
theorem readBytes_missing (hne : address.blob ≠ []) (hpassable : Trace.Passable site path)
    (hmissing : objects.get? address.blob = none) :
    Gives .azure address.container
      (.error (.fault (.missing .file path (some Client.notFound)))) (readBytes path) site := by
  refine Gives.traced hpassable fun site' hrecorded => ?_
  rw [← hrecorded.cloud_eq] at hbucket
  apply Gives.bind_rule haddress
  rw [if_neg (by simpa using hne)]
  exact (Client.downloadBlob_missing hbucket hmissing).bind_error.wrapping_incident

end Azure

/-! ## All object stores -/

namespace Backend

variable {kind : Kind} {name key : Text}

/-- What the operations on a path give that addresses a key. -/
structure Infers (kind : Kind) (path name key : Text) (objects : Bucket) (site : Site) : Prop where
  isDirectory :
    Gives kind name (.ok (decide (objects.IsDirectory key))) (isDirectory kind path) site
  isPresent : Gives kind name (.ok (decide (objects.IsPresent key))) (isPresent kind path) site
  modified : ∃ what cause,
    Gives kind name (foundOr (.missing what path cause) (objects.time? key)) (modified kind path)
      site
  readBytes_missing : key ≠ [] → objects.get? key = none → Trace.Passable site path → ∃ cause,
    Gives kind name (.error (.fault (.missing .file path cause))) (readBytes kind path) site

theorem infers (hkind : kind ≠ .disk) (haddress : addressOf kind path = .ok (name, key))
    (hbucket : site.cloud.bucket? kind name = some objects) :
    Infers kind path name key objects site := by
  have hclosed := key_closed hkind haddress
  cases kind with
  | disk => exact absurd rfl hkind
  | gcs =>
      obtain ⟨address, hparse, heq⟩ := map_ok_iff.1 haddress
      cases heq
      exact
        { isDirectory := Gcs.isDirectory_gives hparse hclosed hbucket
          isPresent := Gcs.isPresent_gives hparse hclosed hbucket
          modified := ⟨_, _, Gcs.modified_gives hparse hclosed hbucket⟩
          readBytes_missing := fun hne hmissing hpassable =>
            ⟨_, Gcs.readBytes_missing hparse hbucket hne hpassable hmissing⟩ }
  | s3 =>
      obtain ⟨address, hparse, heq⟩ := map_ok_iff.1 haddress
      cases heq
      exact
        { isDirectory := S3.isDirectory_gives hparse hclosed hbucket
          isPresent := S3.isPresent_gives hparse hclosed hbucket
          modified := ⟨_, _, S3.modified_gives hparse hclosed hbucket⟩
          readBytes_missing := fun _ hmissing hpassable =>
            ⟨_, S3.readBytes_missing hparse hbucket hpassable hmissing⟩ }
  | azure =>
      obtain ⟨address, hparse, heq⟩ := map_ok_iff.1 haddress
      cases heq
      exact
        { isDirectory := Azure.isDirectory_gives hparse hclosed hbucket
          isPresent := Azure.isPresent_gives hparse hclosed hbucket
          modified := ⟨_, _, Azure.modified_gives hparse hclosed hbucket⟩
          readBytes_missing := fun hne hmissing hpassable =>
            ⟨_, Azure.readBytes_missing hparse hbucket hne hpassable hmissing⟩ }

/-- What is read is the content under the key, or the fault that there is none. -/
theorem readBytes_gives (hkind : kind ≠ .disk) (haddress : addressOf kind path = .ok (name, key))
    (hbucket : site.cloud.bucket? kind name = some objects) (hne : key ≠ [])
    (hpassable : Trace.Passable site path) :
    ∃ cause, Gives kind name (foundOr (.missing .file path cause) (objects.content? key))
      (readBytes kind path) site := by
  cases hobject : objects.get? key with
  | none =>
      rw [Bucket.content?, hobject]
      exact (infers hkind haddress hbucket).readBytes_missing hne hobject hpassable
  | some object =>
      have hyields := readBytes_yields hkind haddress hbucket hne
      rw [Bucket.content?, hobject] at hyields ⊢
      exact ⟨none, .of_yields hpassable hyields⟩

end Backend

end Stores

/-! ## Canonical paths -/

/-- A bucket of an object store, under a name that is read back from paths. -/
structure Locus where
  kind : Kind
  /-- The host of the account, which stands in paths of Azure. -/
  host : Text := []
  bucket : Text
  remote : kind ≠ .disk
  bucket_solid : bucket ≠ [] ∧ slash ∉ bucket
  bucket_noColon : kind = .s3 → ':' ∉ bucket
  bucket_noQuery : kind = .azure → '?' ∉ bucket
  host_solid : kind = .azure → host ≠ [] ∧ slash ∉ host

namespace Locus

variable {locus : Locus} {names : List Text} {name : Text}

/-- What stands before the bucket in a path. -/
def front (locus : Locus) : Text :=
  match locus.kind with
  | .azure => Kind.azure.scheme ++ locus.host ++ [slash]
  | kind => kind.scheme

/-- The path to which names lead in the bucket. -/
def path (locus : Locus) (names : List Text) : Text :=
  Path.ofKey locus.front locus.bucket (Text.join names)

/-- The names make a canonical path: they are solid, and for Azure none holds a question mark. -/
def Canonical (locus : Locus) (names : List Text) : Prop :=
  Text.Solid names ∧ (locus.kind = .azure → ∀ name ∈ names, '?' ∉ name)

/-- A canonical path is its own canonical form, and it addresses the key that its names make. -/
theorem path_canonical (hnames : locus.Canonical names) :
    Backend.normalize locus.kind (locus.path names) = .ok (locus.path names) ∧
      Backend.addressOf locus.kind (locus.path names) = .ok (locus.bucket, Text.join names) := by
  obtain ⟨kind, host, bucket, hremote, hbucket, hcolon, hquery, hhost⟩ := locus
  obtain ⟨hsolid, hfree⟩ := hnames
  cases kind with
  | disk => exact absurd rfl hremote
  | gcs =>
      have hparse := Gcs.parse_join hbucket hsolid
      rw [← Path.ofKey_join _ _ hsolid] at hparse
      exact ⟨map_ok_iff.2 ⟨_, hparse, rfl⟩, map_ok_iff.2 ⟨_, hparse, rfl⟩⟩
  | s3 =>
      have hparse := S3.parse_join hbucket (hcolon rfl) hsolid
      rw [← Path.ofKey_join _ _ hsolid] at hparse
      exact ⟨map_ok_iff.2 ⟨_, hparse, rfl⟩, map_ok_iff.2 ⟨_, hparse, rfl⟩⟩
  | azure =>
      have hplain : Azure.Address.Plain ⟨host, bucket, Text.join names⟩ :=
        { host := hhost rfl
          container := hbucket
          container_noQuery := hquery rfl
          blob_noQuery := fun hmem => by
            rcases Text.mem_join hmem with hslash | ⟨name, hname, hmem⟩
            · exact absurd hslash (by decide)
            · exact hfree rfl name hname hmem
          blob_start := Text.join_not_open hsolid
          blob_end := Path.endsOpen_join hsolid }
      have hparse := Azure.parse_path hplain
      rw [Azure.Address.path_eq] at hparse
      refine ⟨map_ok_iff.2 ⟨_, hparse, ?_⟩, map_ok_iff.2 ⟨_, hparse, rfl⟩⟩
      rw [Azure.Address.path_eq]
      rfl

/-- Joining a name to a path leads one name further. -/
theorem path_concat (hnames : Text.Solid names) (hname : name ≠ [] ∧ slash ∉ name) :
    Path.join [locus.path names, name] = locus.path (names ++ [name]) := by
  have hclosed := Path.endsOpen_join hnames
  rw [path, (Path.isRoot_ofKey _ locus.bucket_solid hclosed).join_name hname,
    Path.below_ofKey _ _ hclosed (Text.Solid.singleton hname), Key.below_join hnames]
  rfl

/-- Names can be put behind each other. -/
theorem Canonical.append {others : List Text} (h : locus.Canonical names)
    (hothers : locus.Canonical others) : locus.Canonical (names ++ others) := by
  refine ⟨h.1.append hothers.1, fun hazure name hname => ?_⟩
  rcases List.mem_append.1 hname with hname | hname
  · exact h.2 hazure name hname
  · exact hothers.2 hazure name hname

/--
Of a canonical path in a bucket that is there, if the store answers, whatever the size of its
pages: it names a directory if it is the bucket itself or some key continues it; it is there if it
names a directory or the key of an object; its time is zero for a directory, that of the object for
another key, and a fault that it is missing otherwise.  The time of an object is the exact one,
unless its moment is late.  If tracing is not in the way either, its content is that of the object,
or a fault that it is missing; and what is listed in it are the first components of what remains of
the keys, which are the names that are there when they are joined to it.
-/
theorem inferred_from_keys (locus : Locus) {names : List Text} {objects : Bucket} {site : Site}
    (hnames : locus.Canonical names)
    (hbucket : site.cloud.bucket? locus.kind locus.bucket = some objects)
    (hanswers : site.Answers locus.kind locus.bucket) :
    (Backend.isDirectory locus.kind (locus.path names)).result site =
        .ok (decide (objects.IsDirectory (Text.join names))) ∧
      (Backend.isPresent locus.kind (locus.path names)).result site =
        .ok (decide (objects.IsPresent (Text.join names))) ∧
      (∃ what cause, (Backend.modified locus.kind (locus.path names)).result site =
        foundOr (.missing what (locus.path names) cause) (objects.time? (Text.join names))) ∧
      (∀ object, ¬ objects.IsDirectory (Text.join names) →
        objects.get? (Text.join names) = some object → object.updated.IsValid →
          ¬ object.updated.IsLate →
            (Backend.modified locus.kind (locus.path names)).result site =
              .ok (1000 * object.updated.microseconds)) ∧
      (Trace.Passable site (locus.path names) →
        (names ≠ [] → ∃ cause, (Backend.readBytes locus.kind (locus.path names)).result site =
          foundOr (.missing .file (locus.path names) cause)
            (objects.content? (Text.join names))) ∧
        ∃ listed, (Backend.contents locus.kind (locus.path names)).result site = .ok listed ∧
          (∀ name, name ∈ listed ↔ objects.Lists (Text.join names) name) ∧
          ∀ name, locus.Canonical [name] → (name ∈ listed ↔
            (Backend.isPresent locus.kind (Path.join [locus.path names, name])).result site =
              .ok true)) := by
  have hsolid := hnames.1
  have haddress := (path_canonical hnames).2
  have hinfers := Backend.infers locus.remote haddress hbucket
  obtain ⟨what, cause, hmodified⟩ := hinfers.modified
  have htime := hmodified.result_eq hanswers
  refine ⟨hinfers.isDirectory.result_eq hanswers, hinfers.isPresent.result_eq hanswers,
    ⟨what, cause, htime⟩, fun object hkey hobject hvalid hintime => ?_,
    fun hpassable => ⟨fun hne => ?_, ?_⟩⟩
  · rw [htime, Bucket.time?_eq hkey hobject hvalid hintime]
    rfl
  · have hkey : Text.join names ≠ [] := mt (Text.join_eq_nil hsolid).1 hne
    obtain ⟨cause, hread⟩ :=
      Backend.readBytes_gives locus.remote haddress hbucket hkey hpassable
    exact ⟨cause, hread.result_eq hanswers⟩
  · have hlists (name : Text) : name ∈ objects.children (Text.join names) ↔
        objects.Lists (Text.join names) name :=
      Bucket.mem_children_iff_lists (Path.endsOpen_join hsolid)
    have hcontents := Backend.contents_yields locus.remote haddress hbucket
    refine ⟨_, (Gives.of_yields hpassable hcontents).result_eq hanswers, hlists,
      fun name hname => ?_⟩
    have hplain := hname.1.head
    have hbelow := (path_canonical (hnames.append hname)).2
    have hpresent := (Backend.infers locus.remote hbelow hbucket).isPresent.result_eq hanswers
    rw [hlists, Bucket.lists_iff_isPresent hsolid hplain, path_concat hsolid hplain, hpresent]
    simp

/-- A bucket in which one key is that of an object, of a directory and of its marker. -/
def siblingBucket : Bucket :=
  [("res".toList, ⟨⟨#[49]⟩, Object.usualMoment⟩),
    ("res/".toList, ⟨⟨#[]⟩, Object.usualMoment⟩),
    ("res/a".toList, ⟨⟨#[50]⟩, Object.usualMoment⟩),
    ("res//b".toList, ⟨⟨#[51]⟩, Object.usualMoment⟩),
    ("resnet/c".toList, ⟨⟨#[52]⟩, Object.usualMoment⟩)]

/-- Where that bucket is. -/
def siblings : Locus where
  kind := .s3
  bucket := "b".toList
  remote := by decide
  bucket_solid := by decide
  bucket_noColon _ := by decide
  bucket_noQuery := nofun
  host_solid := nofun

/-- A site that has only this bucket. -/
def siblingSite : Site := .storing .s3 "b".toList siblingBucket

/--
The key is a directory with one name in it, and can be read none the less; of an object the exact
time is told.
-/
theorem inferred_from_keys_siblings :
    (Backend.isDirectory .s3 "s3://b/res".toList).result siblingSite = .ok true ∧
      (Backend.isPresent .s3 "s3://b/res".toList).result siblingSite = .ok true ∧
      (Backend.modified .s3 "s3://b/res".toList).result siblingSite = .ok 0 ∧
      (Backend.modified .s3 "s3://b/resnet/c".toList).result siblingSite =
        .ok (1000 * Object.usualMoment.microseconds) ∧
      (Backend.readBytes .s3 "s3://b/res".toList).result siblingSite = .ok ⟨#[49]⟩ ∧
      ∃ listed, (Backend.contents .s3 "s3://b/res".toList).result siblingSite = .ok listed ∧
        "a".toList ∈ listed ∧ "b".toList ∉ listed ∧ "c".toList ∉ listed := by
  have hstored : siblingSite.cloud.bucket? siblings.kind siblings.bucket = some siblingBucket :=
    Site.bucket?_storing
  have hnames : siblings.Canonical ["res".toList] := ⟨by decide, nofun⟩
  obtain ⟨hdirectory, hpresent, ⟨what, cause, hmodified⟩, -, hreading⟩ :=
    inferred_from_keys siblings hnames hstored Site.answers_storing
  obtain ⟨hread, listed, hcontents, hlists, -⟩ := hreading (Site.passable_storing _)
  obtain ⟨cause', hread⟩ := hread (by decide)
  have hinner : siblings.Canonical ["resnet".toList, "c".toList] := ⟨by decide, nofun⟩
  obtain ⟨-, -, -, htime, -⟩ :=
    inferred_from_keys siblings hinner hstored Site.answers_storing
  have hexact := htime ⟨⟨#[52]⟩, Object.usualMoment⟩ (by decide) rfl (by decide) (by decide)
  refine ⟨hdirectory, hpresent, hmodified, hexact, hread, listed, hcontents, ?_⟩
  have hclosed : Path.endsOpen (Text.join ["res".toList]) = false := by decide
  simp only [hlists, ← Bucket.mem_children_iff_lists hclosed, Bucket.mem_children_iff,
    Bucket.Holds]
  decide +kernel

end Locus

end ArtifactDepot
