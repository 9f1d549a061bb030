import ArtifactDepot.Proofs.Failures
import ArtifactDepot.Proofs.Complete

/-!
# Failures of the stores in the operations of a backend

Every operation of an object store's backend but two explains the request
that fails in it (`Action.Explained`).  The two ask S3 for the head of an
object: whether the path is there is answered in the negative when the store
says that nothing is, and the time of a last change is then refused by a
fault that has no cause.  `Backend.Classified` has a case for each, and
`Backend.failures_classified` covers all operations.
-/

namespace ArtifactDepot

open ArtifactDepot.Action

theorem Site.made_nil (site : Site) : Site.Made [] site site :=
  ⟨(List.append_nil _).symm, rfl, Nat.le_refl _⟩

/-! ## Cloud Storage -/

namespace Gcs

theorem Client.tells_lookupBucket (name : Text) :
    Tells (fun _ => Asked (.lookupBucket name)) (lookupBucket name) :=
  tells_request rfl fun site => Or.inl ⟨_, site, rfl, site.made_nil, rfl⟩

theorem Client.tells_getBlob (bucket name : Text) :
    Tells (fun _ => Asked (.getBlob bucket name)) (getBlob bucket name) :=
  tells_request rfl fun site => Or.inl ⟨_, site, rfl, site.made_nil, rfl⟩

theorem Client.tells_listBlobs (bucket start : Text) (most : Option Nat) :
    Tells (fun _ => Asked (.listBlobs bucket start most)) (listBlobs bucket start most) := by
  refine tells_request rfl fun site => ?_
  rw [get_bind, Call.refusal?]
  cases site.cloud.bucket? .gcs bucket with
  | none => exact Or.inr ⟨_, rfl, rfl⟩
  | some found => exact Or.inl ⟨_, site, rfl, site.made_nil, rfl⟩

theorem Client.tells_download (bucket name : Text) (object : Object) :
    Tells (fun _ => Asked (.download bucket name)) (download bucket name object) :=
  tells_request rfl fun site => Or.inl ⟨_, site, rfl, site.made_nil, rfl⟩

theorem parse_cause {path : Text} {fault : Fault} (h : parse path = .error fault) :
    fault.cause? = none := by
  rw [parse_error h]
  rfl

theorem explained_isDirectory (path : Text) :
    Tells (fun _ => Explained .gcs fun _ => False) (isDirectory path) := by
  refine explained_rule (fun _ => parse_cause) fun address => explained_during _ _ ?_
  refine bare_bind (Client.tells_lookupBucket _).bare (Client.keeps_lookupBucket _).recorded
    fun found => ?_
  have hlist : Tells (fun _ => Bare) (if address.object.isEmpty then pure true else do
      let found ← Client.listBlobs address.bucket (Key.asDirectory address.object) (some 1)
      return !found.isEmpty) :=
    tells_ite (tells_pure fun _ => .answered _) (bare_map (Client.tells_listBlobs _ _ _).bare)
  exact tells_ite (tells_throw fun _ => .refused rfl) hlist

theorem explained_isPresent (path : Text) :
    Tells (fun _ => Explained .gcs fun _ => False) (isPresent path) := by
  refine explained_rule (fun _ => parse_cause) fun address => ?_
  have hrest (isObject : Bool) : Tells (fun _ => Explained .gcs fun _ => False)
      (if isObject then pure true else isDirectory path) :=
    tells_ite (tells_pure fun _ => .answered _) (explained_isDirectory path)
  refine tells_ite (hrest false) (explained_bind ?_ ?_ hrest)
  · exact explained_during _ _ (bare_map (Client.tells_getBlob _ _).bare)
  · exact keeps_during (keeps_bind (Client.keeps_getBlob _ _).recorded fun _ => keeps_pure _)

theorem explained_modified (path : Text) :
    Tells (fun _ => Explained .gcs fun _ => False) (modified path) := by
  refine explained_bind (explained_isDirectory path) (keeps_isDirectory path).recorded
    fun found => tells_ite (tells_pure fun _ => .answered _) ?_
  refine explained_rule (fun _ => parse_cause) fun address => ?_
  refine explained_bind (explained_during _ _ (Client.tells_getBlob _ _).bare)
    (keeps_during (Client.keeps_getBlob _ _).recorded) fun blob => ?_
  cases blob with
  | none => exact tells_throw fun _ => .refused rfl
  | some object => exact tells_pure fun _ => .answered _

theorem explained_contents (path : Text) :
    Tells (fun site => Explained .gcs (Trace.Stops site path)) (contents path) := by
  refine Trace.explained_traced _ _ (explained_rule (fun _ => parse_cause) fun address => ?_)
  exact explained_map (explained_during _ _ (Client.tells_listBlobs _ _ _).bare)

theorem explained_readBytes (path : Text) :
    Tells (fun site => Explained .gcs (Trace.Stops site path)) (readBytes path) := by
  refine Trace.explained_traced _ _ (explained_rule (fun _ => parse_cause) fun address =>
    explained_during _ _ ?_)
  refine tells_ite (tells_throw fun _ => .refused rfl)
    (bare_bind (Client.tells_getBlob _ _).bare (Client.keeps_getBlob _ _).recorded fun blob => ?_)
  cases blob with
  | none => exact tells_throw fun _ => .refused rfl
  | some object => exact (Client.tells_download _ _ _).bare

end Gcs

/-! ## S3 -/

namespace S3

theorem Client.bucket_cases (name : Text) (code operation : String) (site : Site) :
    (∃ found, site.cloud.bucket? .s3 name = some found ∧
        bucket name code operation site = .ok found site) ∨
      site.cloud.bucket? .s3 name = none ∧
        bucket name code operation site = .error (.incident (refusal code operation)) site := by
  rw [bucket, get_bind]
  cases site.cloud.bucket? .s3 name with
  | none => exact Or.inr ⟨rfl, rfl⟩
  | some found => exact Or.inl ⟨found, rfl, rfl⟩

theorem Client.tells_headBucket (name : Text) :
    Tells (fun _ => Asked (.headBucket name)) (headBucket name) := by
  refine tells_request rfl fun site => ?_
  rw [Call.refusal?]
  rcases bucket_cases name "404" "HeadBucket" site with ⟨found, hfound, hrun⟩ | ⟨hmissing, hrun⟩
  · rw [hfound]
    exact Or.inl ⟨_, site, discard_ok hrun, site.made_nil, rfl⟩
  · rw [hmissing]
    exact Or.inr ⟨_, discard_error hrun, rfl⟩

theorem Client.tells_listObjects (name start : Text) (most token : Option Nat) :
    Tells (fun _ => Asked (.listObjects name start most token))
      (listObjects name start most token) := by
  refine tells_request rfl fun site => ?_
  rw [Call.refusal?]
  rcases bucket_cases name "NoSuchBucket" "ListObjectsV2" site with
    ⟨found, hfound, hrun⟩ | ⟨hmissing, hrun⟩
  · rw [hfound]
    exact Or.inl ⟨_, site, bind_ok hrun, site.made_nil, rfl⟩
  · rw [hmissing]
    exact Or.inr ⟨_, bind_error hrun, rfl⟩

/-- An object is given out as it is asked for, or refused with its bucket or alone. -/
theorem Client.tells_object {α : Type} {call : Call} {name key : Text} {code operation : String}
    (give : Object → α) (hdata : call.bucket?.isSome = true)
    (hrefusal : ∀ cloud, call.refusal? cloud =
      match cloud.bucket? .s3 name with
      | none => some (refusal "NoSuchBucket" operation)
      | some found => if (found.get? key).isSome then none else some (refusal code operation)) :
    Tells (fun _ => Asked call) (do
      perform call
      let found ← bucket name "NoSuchBucket" operation
      match found.get? key with
      | some object => return give object
      | none => meet (refusal code operation)) := by
  refine tells_request hdata fun site => ?_
  rw [hrefusal]
  rcases bucket_cases name "NoSuchBucket" operation site with
    ⟨found, hfound, hrun⟩ | ⟨hmissing, hrun⟩
  · rw [hfound, bind_ok hrun]
    dsimp only
    cases found.get? key with
    | none => exact Or.inr ⟨_, rfl, rfl⟩
    | some object => exact Or.inl ⟨_, site, rfl, site.made_nil, rfl⟩
  · rw [hmissing]
    exact Or.inr ⟨_, bind_error hrun, rfl⟩

theorem Client.tells_headObject (name key : Text) :
    Tells (fun _ => Asked (.headObject name key)) (headObject name key) :=
  tells_object Object.updated rfl fun _ => rfl

theorem Client.tells_getObject (name key : Text) :
    Tells (fun _ => Asked (.getObject name key)) (getObject name key) :=
  tells_object Object.content rfl fun _ => rfl

theorem Client.tells_readBody (name key : Text) (content : ByteArray) :
    Tells (fun _ => Asked (.readBody name key)) (readBody name key content) :=
  tells_request rfl fun site => Or.inl ⟨_, site, rfl, site.made_nil, rfl⟩

theorem parse_cause {path : Text} {fault : Fault} (h : parse path = .error fault) :
    fault.cause? = none := by
  obtain rfl | ⟨rest, rfl⟩ := parse_error h
  · rfl
  · rfl

theorem explained_isDirectory (path : Text) :
    Tells (fun _ => Explained .s3 fun _ => False) (isDirectory path) := by
  refine explained_rule (fun _ => parse_cause) fun address => ?_
  refine explained_bind (explained_during _ _ (Client.tells_headBucket _).bare)
    (keeps_during (Client.keeps_headBucket _).recorded) fun _ => ?_
  refine tells_ite (tells_pure fun _ => .answered _) ?_
  exact explained_map (explained_during _ _ (Client.tells_listObjects _ _ _ _).bare)

/-- What becomes of the question for the head of an object. -/
inductive Headed (bucket key : Text) : Account (Option Moment)
  | found (moment : Moment) : Headed bucket key (.ok (some moment)) []
  | absent {incident : Incident} (h : Accepts .s3 incident) :
      Headed bucket key (.ok none) [(.headObject bucket key, incident)]
  | failed {failure : Failure} {failures : List (Call × Incident)}
      (h : Explained .s3 (fun _ => False) (.error failure : Except Failure (Option Moment))
        failures) :
      Headed bucket key (.error failure) failures

/-- What is made of a failure: nothing is there, or the task failed. -/
theorem judge_eq {α : Type} (incident : Incident) (missing : Action α) (task : Task) (path : Text)
    (site : Site) :
    (do if ← ofCall (Client.isMissing incident) then missing
        else raise (.failed task path incident) : Action α) site =
      match Client.isMissing incident with
      | .ok true => missing site
      | .ok false => .error (.fault (.failed task path incident)) site
      | .error problem => .error (.incident problem) site := by
  cases Client.isMissing incident with
  | error problem => rfl
  | ok answer => cases answer <;> rfl

theorem after_judge {α : Type} {missing : Action α} (hmissing : ∀ site, after missing site = site)
    (incident : Incident) (task : Task) (path : Text) (site : Site) :
    after (do if ← ofCall (Client.isMissing incident) then missing
              else raise (.failed task path incident) : Action α) site = site := by
  unfold after
  rw [judge_eq]
  cases Client.isMissing incident with
  | error problem => rfl
  | ok answer =>
      cases answer with
      | true => exact hmissing site
      | false => rfl

theorem headed_headObject? (path : Text) (address : Address) :
    Tells (fun _ => Headed address.bucket address.key) (headObject? path address) := by
  have hask : Tells (fun _ result failures =>
      (∃ moment, result = .ok (some moment) ∧ failures = []) ∨
        ∃ incident, result = .error (.incident incident) ∧
          failures = [(.headObject address.bucket address.key, incident)])
      (do return some (← Client.headObject address.bucket address.key)) := by
    refine (Client.tells_headObject address.bucket address.key).map (fun hasked => ?_)
      fun hasked => ?_
    · cases hasked
      exact Or.inl ⟨_, rfl, rfl⟩
    · cases hasked
      exact Or.inr ⟨_, rfl, rfl⟩
  refine hask.recover (fun failure site => ?_) (fun hasked => ?_) fun site' hasked => ?_
  · cases failure with
    | fault fault => rfl
    | incident incident => exact after_judge (fun _ => rfl) incident _ _ _
  · obtain ⟨moment, hresult, rfl⟩ | ⟨incident, hresult, -⟩ := hasked
    · cases hresult
      exact .found moment
    · cases hresult
  · obtain ⟨moment, hresult, -⟩ | ⟨incident, hresult, rfl⟩ := hasked
    · cases hresult
    · cases hresult
      unfold result
      dsimp only
      rw [judge_eq]
      cases hmissing : Client.isMissing incident with
      | error problem => exact .failed (.malformed _ rfl hmissing)
      | ok answer =>
          cases answer with
          | true => exact .absent hmissing
          | false => exact .failed (.caused _ rfl (Or.inl rfl))

/--
A failed request is explained, unless it asks for the head of an object and the store says that
nothing is there: this ends the run in the given way.
-/
inductive Lacking {α : Type} (lacking : Except Failure α) : Account α
  | explained {result : Except Failure α} {failures : List (Call × Incident)}
      (h : Explained .s3 (fun _ => False) result failures) : Lacking lacking result failures
  | absent (bucket key : Text) {incident : Incident} (h : Accepts .s3 incident) :
      Lacking lacking lacking [(.headObject bucket key, incident)]

/-- The head of an object is asked for where no directory is found. -/
theorem tells_lacking {α : Type} {lacking : Except Failure α} {value : α}
    {next : Option Moment → Action α} (path : Text)
    (hsome : ∀ moment, Tells (fun _ => Explained .s3 fun _ => False) (next (some moment)))
    (hnone : Tells (fun _ result failures => result = lacking ∧ failures = []) (next none)) :
    Tells (fun _ => Lacking lacking) (do
      if ← isDirectory path then return value
      let address ← ofRule (parse path)
      next (← headObject? path address)) := by
  have hhead (address : Address) :
      Tells (fun _ => Lacking lacking) (headObject? path address >>= next) := by
    have hnext (found : Option Moment) : Tells (fun _ result failures =>
        (found.isSome → Explained .s3 (fun _ => False) result failures) ∧
          (found = none → result = lacking ∧ failures = [])) (next found) := by
      cases found with
      | some moment => exact (hsome moment).mono fun h => ⟨fun _ => h, nofun⟩
      | none => exact hnone.mono fun h => ⟨nofun, fun _ => h⟩
    refine (headed_headObject? path address).bind (keeps_headObject? path address).recorded hnext
      (fun hheaded hrest => ?_) fun hheaded => ?_
    · cases hheaded with
      | found moment => exact .explained (hrest.1 rfl)
      | absent h =>
          obtain ⟨rfl, rfl⟩ := hrest.2 rfl
          exact .absent _ _ h
    · cases hheaded with
      | failed h => exact .explained h.error
  have hparse : Tells (fun _ => Lacking lacking)
      (ofRule (parse path) >>= fun address => headObject? path address >>= next) := by
    cases haddress : parse path with
    | error fault => exact tells_throw fun _ => .explained (.refused (parse_cause haddress))
    | ok address => exact hhead address
  have hrest (found : Bool) : Tells (fun _ => Lacking lacking) (if found then pure value else
      ofRule (parse path) >>= fun address => headObject? path address >>= next) :=
    tells_ite (tells_pure fun _ => .explained (.answered value)) hparse
  refine (explained_isDirectory path).bind (keeps_isDirectory path).recorded hrest
    (fun hfirst hlacking => ?_) fun hfirst => .explained hfirst.error
  cases hfirst
  exact hlacking

theorem lacking_isPresent (path : Text) :
    Tells (fun _ => Lacking (.ok false)) (isPresent path) :=
  tells_lacking path (fun _ => tells_pure fun _ => .answered true) (tells_pure fun _ => ⟨rfl, rfl⟩)

theorem lacking_modified (path : Text) :
    Tells (fun _ => Lacking (.error (.fault (.missing .object path none)))) (modified path) :=
  tells_lacking path (fun moment => tells_pure fun _ => .answered moment.nanoseconds)
    (tells_throw fun _ => ⟨rfl, rfl⟩)

theorem explained_gather (bucket directory : Text) (bound : Nat) (token : Option Nat)
    (found : Names) : Tells (fun _ => Bare) (gather bucket directory bound token found) := by
  induction bound generalizing token found with
  | zero => exact tells_pure fun _ => .answered _
  | succ bound ih =>
      refine bare_bind (Client.tells_listObjects _ _ _ _).bare
        (Client.keeps_listObjects _ _ _ _).recorded fun page => ?_
      dsimp only
      cases page.next? with
      | none => exact tells_pure fun _ => .answered _
      | some next => exact ih _ _

theorem explained_contents (path : Text) :
    Tells (fun site => Explained .s3 (Trace.Stops site path)) (contents path) := by
  refine Trace.explained_traced _ _ (explained_rule (fun _ => parse_cause) fun address => ?_)
  exact tells_bind_get fun site => explained_during _ _ (explained_gather _ _ _ _ _)

theorem explained_fetch (path : Text) (address : Address) :
    Tells (fun _ => Explained .s3 fun _ => False) (fetch path address) := by
  refine (Client.tells_getObject address.bucket address.key).recover (fun failure site => ?_)
    (fun hasked => ?_) fun site' hasked => ?_
  · cases failure with
    | fault fault => rfl
    | incident incident => exact after_judge (fun _ => rfl) incident _ _ _
  · cases hasked
    exact .answered _
  · cases hasked with
    | failed incident =>
        unfold result
        dsimp only
        rw [judge_eq]
        cases hmissing : Client.isMissing incident with
        | error problem => exact .malformed _ rfl hmissing
        | ok answer =>
            cases answer with
            | true => exact .caused _ rfl (Or.inr ⟨rfl, hmissing⟩)
            | false => exact .caused _ rfl (Or.inl rfl)

theorem explained_readBytes (path : Text) :
    Tells (fun site => Explained .s3 (Trace.Stops site path)) (readBytes path) := by
  refine Trace.explained_traced _ _ (explained_rule (fun _ => parse_cause) fun address => ?_)
  exact explained_bind (explained_fetch path address) (keeps_fetch path address) fun body =>
    explained_during _ _ (Client.tells_readBody _ _ _).bare

end S3

/-! ## Azure -/

namespace Azure

theorem Client.tells_containerExists (name : Text) :
    Tells (fun _ => Asked (.containerExists name)) (containerExists name) :=
  tells_request rfl fun site => Or.inl ⟨_, site, rfl, site.made_nil, rfl⟩

theorem Client.tells_blobExists (container name : Text) :
    Tells (fun _ => Asked (.blobExists container name)) (blobExists container name) :=
  tells_request rfl fun site => Or.inl ⟨_, site, rfl, site.made_nil, rfl⟩

theorem Client.tells_readAll (container name : Text) (content : ByteArray) :
    Tells (fun _ => Asked (.readAll container name)) (readAll container name content) :=
  tells_request rfl fun site => Or.inl ⟨_, site, rfl, site.made_nil, rfl⟩

theorem Client.container?_run (name : Text) (site : Site) :
    container? name site = .ok (site.cloud.bucket? .azure name) site := rfl

theorem Client.tells_walkBlobs (container : Text) (start : Option Text) :
    Tells (fun _ => Asked (.walkBlobs container start)) (walkBlobs container start) := by
  refine tells_request rfl fun site => ?_
  rw [bind_ok (container?_run container site), Call.refusal?]
  cases site.cloud.bucket? .azure container with
  | none => exact Or.inr ⟨_, rfl, rfl⟩
  | some found => exact Or.inl ⟨_, site, rfl, site.made_nil, rfl⟩

/-- A blob is given out as it is asked for, or refused. -/
theorem Client.tells_blob {α : Type} {call : Call} {container name : Text} (give : Object → α)
    (hdata : call.bucket?.isSome = true)
    (hrefusal : ∀ cloud, call.refusal? cloud =
      if ((cloud.bucket? .azure container).bind (·.get? name)).isSome then none
      else some notFound) :
    Tells (fun _ => Asked call) (do
      perform call
      return give (← blob container name)) := by
  refine tells_request hdata fun site => ?_
  rw [hrefusal, blob, bind_assoc, bind_ok (container?_run container site)]
  cases (site.cloud.bucket? .azure container).bind (·.get? name) with
  | none => exact Or.inr ⟨_, rfl, rfl⟩
  | some object => exact Or.inl ⟨_, site, rfl, site.made_nil, rfl⟩

theorem Client.tells_getProperties (container name : Text) :
    Tells (fun _ => Asked (.getBlobProperties container name)) (getProperties container name) :=
  tells_blob Object.updated rfl fun _ => rfl

theorem Client.tells_downloadBlob (container name : Text) :
    Tells (fun _ => Asked (.downloadBlob container name)) (downloadBlob container name) :=
  tells_blob Object.content rfl fun _ => rfl

theorem Client.tells_upload (container name : Text) (content : ByteArray) :
    Tells (fun _ => Asked (.uploadBlob container name content)) (upload container name content) := by
  refine tells_request rfl fun site => ?_
  rw [bind_ok (container?_run container site), Call.refusal?]
  cases site.cloud.bucket? .azure container with
  | none => exact Or.inr ⟨_, rfl, rfl⟩
  | some found =>
      exact Or.inl ⟨(), _, rfl, ⟨(List.append_nil _).symm, rfl, Nat.le_refl _⟩, rfl⟩

theorem parse_cause {path : Text} {fault : Fault} (h : parse path = .error fault) :
    fault.cause? = none := by
  rw [parse_error h]
  rfl

/-- A failure is the cause of its fault, whether it says that nothing is there or not. -/
theorem explained_orMissing {α : Type} {action : Action α} (what : Quarry) (task : Task)
    (path : Text) (h : Tells (fun _ => Bare) action) :
    Tells (fun _ => Explained .azure fun _ => False) (orMissing what task path action) := by
  refine h.wrapping (fun hbare => ?_) (fun hbare => ?_) fun {site incident failures} hbare => ?_
  · cases hbare
    exact .answered _
  · cases hbare with
    | refused hcause => exact .refused hcause
  · cases hbare with
    | failed call incident =>
        cases hmissing : Client.isMissing incident with
        | true => exact .caused call rfl (Or.inr ⟨rfl, hmissing⟩)
        | false => exact .caused call rfl (Or.inl rfl)

theorem explained_isDirectory (path : Text) :
    Tells (fun _ => Explained .azure fun _ => False) (isDirectory path) := by
  refine explained_rule (fun _ => parse_cause) fun address => explained_during _ _ ?_
  exact tells_ite (Client.tells_containerExists _).bare (bare_map (Client.tells_walkBlobs _ _).bare)

theorem explained_isPresent (path : Text) :
    Tells (fun _ => Explained .azure fun _ => False) (isPresent path) := by
  refine explained_rule (fun _ => parse_cause) fun address => ?_
  have hrest (isBlob : Bool) : Tells (fun _ => Explained .azure fun _ => False)
      (if isBlob then pure true else isDirectory path) :=
    tells_ite (tells_pure fun _ => .answered _) (explained_isDirectory path)
  exact tells_ite (hrest false)
    (explained_bind (explained_during _ _ (Client.tells_blobExists _ _).bare)
      (keeps_during (Client.keeps_blobExists _ _).recorded) hrest)

theorem explained_modified (path : Text) :
    Tells (fun _ => Explained .azure fun _ => False) (modified path) := by
  refine explained_bind (explained_isDirectory path) (keeps_isDirectory path).recorded
    fun found => tells_ite (tells_pure fun _ => .answered _) ?_
  refine explained_rule (fun _ => parse_cause) fun address => ?_
  exact explained_map (explained_orMissing _ _ _ (Client.tells_getProperties _ _).bare)

theorem explained_walk (path : Text) :
    Tells (fun _ => Explained .azure fun _ => False) (walk path) := by
  refine explained_rule (fun _ => parse_cause) fun address => explained_during _ _ ?_
  exact bare_map (Client.tells_walkBlobs _ _).bare

theorem explained_contents (path : Text) :
    Tells (fun site => Explained .azure (Trace.Stops site path)) (contents path) :=
  Trace.explained_traced _ _ (explained_map (explained_walk path))

theorem explained_readBytes (path : Text) :
    Tells (fun site => Explained .azure (Trace.Stops site path)) (readBytes path) := by
  refine Trace.explained_traced _ _ (explained_rule (fun _ => parse_cause) fun address => ?_)
  have hfetch : Tells (fun _ => Bare) (do
      let content ← Client.downloadBlob address.container address.blob
      Client.readAll address.container address.blob content) :=
    bare_bind (Client.tells_downloadBlob _ _).bare (Client.keeps_downloadBlob _ _) fun content =>
      (Client.tells_readAll _ _ _).bare
  exact tells_ite (tells_throw fun _ => .refused rfl) (explained_orMissing _ _ _ hfetch)

theorem explained_writeText (path : Text) (text : String) :
    Tells (fun site => Explained .azure (Trace.Stops site path)) (writeText path text) := by
  refine Trace.explained_traced _ _ (explained_rule (fun _ => parse_cause) fun address => ?_)
  exact tells_ite (tells_throw fun _ => .refused rfl)
    (explained_during _ _ (Client.tells_upload _ _ _).bare)

end Azure

/-! ## All object stores -/

namespace Backend

/-- What can be asked of a path in an object store. -/
inductive Errand
  | isPresent
  | isDirectory
  | modified
  | contents
  | subdirectories
  | files
  | readBytes
  | writeText (text : String)

namespace Errand

/-- What an errand brings back. -/
def Value : Errand → Type
  | isPresent | isDirectory => Bool
  | modified => Int
  | contents | subdirectories | files => Names
  | readBytes => ByteArray
  | writeText _ => Unit

/-- The operation of the backend of a kind. -/
def run (kind : Kind) (path : Text) : (errand : Errand) → Action errand.Value
  | isPresent => Backend.isPresent kind path
  | isDirectory => Backend.isDirectory kind path
  | modified => Backend.modified kind path
  | contents => Backend.contents kind path
  | subdirectories => Backend.subdirectories kind path
  | files => Backend.files kind path
  | readBytes => Backend.readBytes kind path
  | writeText text => Backend.writeText kind path text

end Errand

/--
What becomes of an errand, and of the requests that fail in it.  S3 has two errands that take a
failure for the lack of an object, and one of them does not name it as the cause of its fault.
-/
inductive Classified (path : Text) (stopped : Incident → Prop) :
    Kind → (errand : Errand) → Account errand.Value
  | explained {kind : Kind} {errand : Errand} {result : Except Failure errand.Value}
      {failures : List (Call × Incident)} (h : Explained kind stopped result failures) :
      Classified path stopped kind errand result failures
  | absent (bucket key : Text) {incident : Incident} (h : Accepts .s3 incident) :
      Classified path stopped .s3 .isPresent (.ok false) [(.headObject bucket key, incident)]
  | unexplained (bucket key : Text) {incident : Incident} (h : Accepts .s3 incident) :
      Classified path stopped .s3 .modified (.error (.fault (.missing .object path none)))
        [(.headObject bucket key, incident)]

section Errands

variable {kind : Kind} (hkind : kind ≠ .disk) (path : Text)

include hkind

theorem explained_isDirectory :
    Tells (fun _ => Explained kind fun _ => False) (isDirectory kind path) := by
  cases kind with
  | disk => exact absurd rfl hkind
  | gcs => exact Gcs.explained_isDirectory path
  | s3 => exact S3.explained_isDirectory path
  | azure => exact Azure.explained_isDirectory path

theorem explained_contents :
    Tells (fun site => Explained kind (Trace.Stops site path)) (contents kind path) := by
  cases kind with
  | disk => exact absurd rfl hkind
  | gcs => exact Gcs.explained_contents path
  | s3 => exact S3.explained_contents path
  | azure => exact Azure.explained_contents path

theorem explained_readBytes :
    Tells (fun site => Explained kind (Trace.Stops site path)) (readBytes kind path) := by
  cases kind with
  | disk => exact absurd rfl hkind
  | gcs => exact Gcs.explained_readBytes path
  | s3 => exact S3.explained_readBytes path
  | azure => exact Azure.explained_readBytes path

theorem explained_writeText (text : String) :
    Tells (fun site => Explained kind (Trace.Stops site path)) (writeText kind path text) := by
  cases kind with
  | disk => exact absurd rfl hkind
  | gcs | s3 => exact tells_throw fun _ => .refused rfl
  | azure => exact Azure.explained_writeText path text

/-- The names are asked for once, and then each of them. -/
theorem explained_select (wanted : Bool) :
    Tells (fun site => Explained kind (Trace.Stops site path)) (select kind path wanted) := by
  refine explained_bind (explained_contents hkind path) (keeps_contents hkind path).recorded
    fun names => explained_map ?_
  exact explained_filterM (fun name => explained_map (explained_isDirectory hkind _))
    (fun name => keeps_bind (keeps_isDirectory hkind _).recorded fun _ => keeps_pure _) _

theorem explained_subdirectories :
    Tells (fun site => Explained kind (Trace.Stops site path)) (subdirectories kind path) := by
  cases kind with
  | disk => exact absurd rfl hkind
  | gcs | s3 => exact explained_select hkind path true
  | azure =>
      exact (explained_map (Azure.explained_walk path)).mono fun h => h.mono fun _ => False.elim

theorem explained_files :
    Tells (fun site => Explained kind (Trace.Stops site path)) (files kind path) := by
  cases kind with
  | disk => exact absurd rfl hkind
  | gcs | s3 => exact explained_select hkind path false
  | azure =>
      exact (explained_map (Azure.explained_walk path)).mono fun h => h.mono fun _ => False.elim

end Errands

/--
A request to a store that fails ends the errand with a fault that it is the cause of, of the kind
that the failure calls for, but for the two errands of S3.
-/
theorem failures_classified {kind : Kind} (hkind : kind ≠ .disk) (errand : Errand) (path : Text)
    (site : Site) :
    ∃ made, Site.Made made site (after (errand.run kind path) site) ∧
      Classified path (Trace.Stops site path) kind errand (result (errand.run kind path) site)
        (Call.failures site.cloud site.rules made) := by
  have htraced {kind : Kind} {errand : Errand}
      (h : Tells (fun site => Explained kind (Trace.Stops site path)) (errand.run kind path)) :
      Tells (fun site => Classified path (Trace.Stops site path) kind errand)
        (errand.run kind path) := h.mono .explained
  have hsilent {kind : Kind} {errand : Errand}
      (h : Tells (fun _ => Explained kind fun _ => False) (errand.run kind path)) :
      Tells (fun site => Classified path (Trace.Stops site path) kind errand)
        (errand.run kind path) := h.mono fun h => .explained (h.mono fun _ => False.elim)
  have hclassified : Tells (fun site => Classified path (Trace.Stops site path) kind errand)
      (errand.run kind path) := by
    cases errand with
    | isPresent =>
        cases kind with
        | disk => exact absurd rfl hkind
        | gcs => exact hsilent (Gcs.explained_isPresent path)
        | azure => exact hsilent (Azure.explained_isPresent path)
        | s3 =>
            refine (S3.lacking_isPresent path).mono fun hlacking => ?_
            cases hlacking with
            | explained h => exact .explained (h.mono fun _ => False.elim)
            | absent bucket key h => exact .absent bucket key h
    | modified =>
        cases kind with
        | disk => exact absurd rfl hkind
        | gcs => exact hsilent (Gcs.explained_modified path)
        | azure => exact hsilent (Azure.explained_modified path)
        | s3 =>
            refine (S3.lacking_modified path).mono fun hlacking => ?_
            cases hlacking with
            | explained h => exact .explained (h.mono fun _ => False.elim)
            | absent bucket key h => exact .unexplained bucket key h
    | isDirectory => exact hsilent (explained_isDirectory hkind path)
    | contents => exact htraced (explained_contents hkind path)
    | subdirectories => exact htraced (explained_subdirectories hkind path)
    | files => exact htraced (explained_files hkind path)
    | readBytes => exact htraced (explained_readBytes hkind path)
    | writeText text => exact htraced (explained_writeText hkind path text)
  exact hclassified site

/-- A store without the object that is asked for. -/
def vacantSite : Site :=
  .storing .s3 "b".toList [("y".toList, ⟨⟨#[49]⟩, Object.usualMoment⟩)]

/-- There the time of the object is refused, and the refusal of the store is lost. -/
theorem failures_classified_lost :
    Kind.s3 ≠ .disk ∧ ∃ made,
      Site.Made made vacantSite (after (Errand.run .s3 "s3://b/x".toList .modified) vacantSite) ∧
        Classified "s3://b/x".toList (Trace.Stops vacantSite "s3://b/x".toList) .s3 .modified
          (result (Errand.run .s3 "s3://b/x".toList .modified) vacantSite)
          (Call.failures vacantSite.cloud vacantSite.rules made) ∧
        Call.failures vacantSite.cloud vacantSite.rules made =
          [(.headObject "b".toList "x".toList, S3.Client.refusal "404" "HeadObject")] ∧
        result (Errand.run .s3 "s3://b/x".toList .modified) vacantSite =
          .error (.fault (.missing .object "s3://b/x".toList none)) := by
  have hkind : Kind.s3 ≠ .disk := by decide
  obtain ⟨made, hmade, hclassified⟩ :=
    failures_classified hkind .modified "s3://b/x".toList vacantSite
  have hcalls : made = [.headBucket "b".toList,
      .listObjects "b".toList "x/".toList (some 1) none, .headObject "b".toList "x".toList] :=
    hmade.calls_eq.symm.trans (by with_unfolding_all rfl)
  refine ⟨hkind, made, hmade, hclassified, ?_, ?_⟩
  · rw [hcalls]
    with_unfolding_all rfl
  · with_unfolding_all rfl

end Backend

end ArtifactDepot
