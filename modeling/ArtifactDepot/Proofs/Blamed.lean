import ArtifactDepot.Proofs.Logged

/-!
# Paths that faults name

A listing, a read, a write or a deletion that ends with a fault of the depot
ends with one that names the path it was asked for, as it was spelled
(`Backend.Operates.blames`), and the message of a fault holds the path that it
names (`Fault.path_mem_message`).
-/

namespace ArtifactDepot

open ArtifactDepot.Action

/-- The message of a fault holds the path that it names. -/
theorem Fault.path_mem_message {fault : Fault} {path : Text} (h : fault.path? = some path) :
    path <:+: fault.message.toList := by
  simp only [message, h]
  split
  · next hoccurs => exact Text.occurs_iff_infix.1 hoccurs
  · refine ⟨fault.statement.toList ++ " path=".toList, [], ?_⟩
    simp [Text.string]

/-! ## Actions that name a path -/

namespace Action

variable {α β : Type} {path : Text} {action : Action α}

/-- A fault that ends the action names the path. -/
def Blames (path : Text) (action : Action α) : Prop :=
  ∀ site site' fault, action site = .error (.fault fault) site' → fault.path? = some path

theorem blames_pure (value : α) : Blames path (pure value : Action α) :=
  fun _ _ _ hrun => by cases hrun

theorem blames_get : Blames path (get : Action Site) :=
  fun _ _ _ hrun => by cases hrun

theorem blames_modify (change : Site → Site) : Blames path (modify change : Action Unit) :=
  fun _ _ _ hrun => by cases hrun

theorem blames_meet (incident : Incident) : Blames path (meet incident : Action α) :=
  fun _ _ _ hrun => by cases hrun

theorem blames_raise {fault : Fault} (h : fault.path? = some path) :
    Blames path (raise fault : Action α) := by
  intro site site' other hrun
  cases hrun
  exact h

theorem blames_ofRule {rule : Except Fault α}
    (h : ∀ {fault}, rule = .error fault → fault.path? = some path) : Blames path (ofRule rule) := by
  cases rule with
  | ok value => exact blames_pure value
  | error fault => exact blames_raise (h rfl)

theorem blames_ofCall (result : Except Incident α) : Blames path (ofCall result) := by
  cases result with
  | ok value => exact blames_pure value
  | error incident => exact blames_meet incident

theorem blames_consult (question : Disk → Except Incident α) : Blames path (consult question) :=
  fun site => blames_ofCall (question site.disk) site

theorem blames_onDisk (operation : DiskAction Unit) : Blames path (onDisk operation) := by
  intro site site' fault hrun
  unfold onDisk at hrun
  split at hrun
  · cases hrun
  · cases hrun

theorem blames_perform (call : Call) : Blames path (perform call) := by
  intro site site' fault hrun
  cases hstrike : Rule.strike? call.row site.rules with
  | none => cases (perform_ok hstrike).symm.trans hrun
  | some struck => cases (perform_error hstrike).symm.trans hrun

theorem Blames.bind {next : α → Action β} (h : Blames path action)
    (hnext : ∀ value, Blames path (next value)) : Blames path (action >>= next) := by
  intro site site' fault hrun
  cases haction : action site with
  | ok value middle => exact hnext value _ _ _ ((bind_ok haction).symm.trans hrun)
  | error failure middle =>
      cases (bind_error haction).symm.trans hrun
      exact h _ _ _ haction

theorem blames_ite {condition : Prop} [Decidable condition] {other : Action α}
    (h : Blames path action) (hother : Blames path other) :
    Blames path (if condition then action else other) := by
  by_cases hcondition : condition
  · rwa [if_pos hcondition]
  · rwa [if_neg hcondition]

/-- A recovery may go on from any incident, and from a fault that names the path. -/
theorem Blames.recover {handler : Failure → Action α} (h : Blames path action)
    (hincident : ∀ incident, Blames path (handler (.incident incident)))
    (hfault : ∀ {fault}, fault.path? = some path → Blames path (handler (.fault fault))) :
    Blames path (recover action handler) := by
  intro site site' fault hrun
  cases haction : action site with
  | ok value middle => cases (recover_ok haction).symm.trans hrun
  | error failure middle =>
      rw [recover_error haction] at hrun
      cases failure with
      | incident incident => exact hincident incident _ _ _ hrun
      | fault other => exact hfault (h _ _ _ haction) _ _ _ hrun

theorem Blames.wrapping {wrap : Incident → Fault} (h : Blames path action)
    (hwrap : ∀ incident, (wrap incident).path? = some path) : Blames path (wrapping wrap action) :=
  h.recover (fun incident => blames_raise (hwrap incident)) blames_raise

theorem Blames.during {task : Task} (h : Blames path action) :
    Blames path (during task path action) := h.wrapping fun _ => rfl

/-- A refusal by tracing is no fault. -/
theorem Blames.entered {traced : Text} (h : Blames path action) :
    Blames path (Trace.entered traced action) := by
  intro site site' fault hrun
  cases hflaw : Trace.flaw? site traced with
  | none => exact h _ _ _ ((Trace.entered_ok hflaw).symm.trans hrun)
  | some words => cases (Trace.entered_error hflaw).symm.trans hrun

/-- Tracing adds no fault. -/
theorem Blames.traced {operation : Operation} {kind : Kind} {traced : Text}
    (h : Blames path action) : Blames path (Trace.traced operation kind traced action) := by
  intro site site' fault hrun
  cases hbegin : Trace.begin? operation site with
  | none =>
      obtain ⟨reason, last, hstopped, -⟩ := Trace.traced_none kind traced action hbegin
      cases hstopped.symm.trans hrun
  | some began =>
      obtain ⟨hresult, -⟩ := Trace.traced_some kind traced action hbegin
      rw [result_of_error hrun] at hresult
      cases haction : Trace.entered traced action began.2 with
      | ok value last => cases hresult.trans (result_of_ok haction)
      | error failure last =>
          cases hresult.trans (result_of_error haction)
          exact h.entered _ _ _ haction

end Action

/-! ## Operations by kind -/

namespace Local

variable {α : Type} {path : Text} {action : Action α}

theorem blames_refused {wrap : Incident → Fault} (h : Blames path action)
    (hwrap : ∀ incident, (wrap incident).path? = some path) :
    Blames path (refused wrap action) := by
  refine h.recover (fun incident => ?_) blames_raise
  split
  · exact blames_raise (hwrap _)
  · exact blames_meet incident

theorem path?_orMissing (what : Quarry) (task : Task) (path : Text) (incident : Incident) :
    (orMissing what task path incident).path? = some path := by
  unfold orMissing
  split
  · rfl
  · rfl

theorem blames_contents (path : Text) : Blames path (contents path) :=
  (blames_refused (blames_consult _) fun _ => rfl).traced

theorem blames_readBytes (path : Text) : Blames path (readBytes path) :=
  (blames_refused (blames_consult _) (path?_orMissing _ _ path)).traced

theorem blames_writeBytes (path : Text) (content : ByteArray) :
    Blames path (writeBytes path content) :=
  (blames_refused (blames_onDisk _) fun _ => rfl).traced

theorem blames_deleteTree (path : Text) : Blames path (deleteTree path) :=
  (blames_refused (blames_onDisk _) (path?_orMissing _ _ path)).traced

end Local

namespace Gcs

theorem path?_of_parse {path : Text} {fault : Fault} (h : parse path = .error fault) :
    fault.path? = some path := by
  rw [parse_error h]
  rfl

theorem Client.blames_listBlobs {path : Text} (bucket start : Text) (most : Option Nat) :
    Blames path (listBlobs bucket start most) := by
  refine (blames_perform _).bind fun _ => blames_get.bind fun site => ?_
  cases site.cloud.bucket? .gcs bucket with
  | none => exact blames_meet _
  | some found => exact blames_pure _

theorem Client.blames_getBlob {path : Text} (bucket name : Text) :
    Blames path (getBlob bucket name) :=
  (blames_perform _).bind fun _ => blames_get.bind fun _ => blames_pure _

theorem blames_contents (path : Text) : Blames path (contents path) := by
  refine ((blames_ofRule path?_of_parse).bind fun address => ?_).traced
  exact (Client.blames_listBlobs _ _ _).during.bind fun _ => blames_pure _

theorem blames_readBytes (path : Text) : Blames path (readBytes path) := by
  refine ((blames_ofRule path?_of_parse).bind fun address => Blames.during ?_).traced
  refine blames_ite ((blames_pure _).bind fun blob => ?_)
    ((Client.blames_getBlob _ _).bind fun blob => ?_)
  all_goals
    cases blob with
    | none => exact blames_raise rfl
    | some object => exact (blames_perform _).bind fun _ => blames_pure _

end Gcs

namespace S3

theorem path?_of_parse {path : Text} {fault : Fault} (h : parse path = .error fault) :
    fault.path? = some path := by
  obtain rfl | ⟨rest, rfl⟩ := parse_error h
  · rfl
  · rfl

variable {path : Text}

theorem Client.blames_bucket (name : Text) (code operation : String) :
    Blames path (bucket name code operation) := by
  refine blames_get.bind fun site => ?_
  cases site.cloud.bucket? .s3 name with
  | none => exact blames_meet _
  | some found => exact blames_pure _

theorem Client.blames_listObjects (name start : Text) (most token : Option Nat) :
    Blames path (listObjects name start most token) :=
  (blames_perform _).bind fun _ => (blames_bucket _ _ _).bind fun _ =>
    blames_get.bind fun _ => blames_pure _

theorem Client.blames_getObject (name key : Text) : Blames path (getObject name key) := by
  refine (blames_perform _).bind fun _ => (blames_bucket _ _ _).bind fun found => ?_
  cases found.get? key with
  | none => exact blames_meet _
  | some object => exact blames_pure _

theorem blames_gather (bucket directory : Text) (bound : Nat) (token : Option Nat)
    (found : Names) : Blames path (gather bucket directory bound token found) := by
  induction bound generalizing token found with
  | zero => exact blames_pure _
  | succ bound ih =>
      refine (Client.blames_listObjects _ _ _ _).bind fun page => ?_
      cases hnext : page.next? with
      | none =>
          dsimp only
          exact blames_pure _
      | some next =>
          dsimp only
          exact ih _ _

theorem blames_contents (path : Text) : Blames path (contents path) := by
  refine ((blames_ofRule path?_of_parse).bind fun address => ?_).traced
  refine (blames_get.bind fun _ => blames_pure _).bind fun bound => ?_
  exact (blames_gather _ _ _ _ _).during

theorem blames_fetch (path : Text) (address : Address) : Blames path (fetch path address) := by
  refine (Client.blames_getObject _ _).recover (fun incident => ?_) blames_raise
  exact (blames_ofCall _).bind fun _ => blames_ite (blames_raise rfl) (blames_raise rfl)

theorem blames_readBytes (path : Text) : Blames path (readBytes path) := by
  refine ((blames_ofRule path?_of_parse).bind fun address => ?_).traced
  refine (blames_fetch path address).bind fun body => Blames.during ?_
  exact (blames_perform _).bind fun _ => blames_pure _

end S3

namespace Azure

theorem path?_of_parse {path : Text} {fault : Fault} (h : parse path = .error fault) :
    fault.path? = some path := by
  rw [parse_error h]
  rfl

theorem blames_contents (path : Text) : Blames path (contents path) := by
  have hwalk : Blames path (walk path) := by
    refine (blames_ofRule path?_of_parse).bind fun address => Blames.during ?_
    have hsteps (start : Option Text) : Blames path (Client.walkBlobs address.container start) := by
      refine (blames_perform _).bind fun _ => ?_
      refine (blames_get.bind fun _ => blames_pure _).bind fun found => ?_
      cases found with
      | none => exact blames_meet _
      | some found => exact blames_pure _
    exact (hsteps _).bind fun _ => blames_pure _
  exact (hwalk.bind fun _ => blames_pure _).traced

theorem blames_readBytes (path : Text) : Blames path (readBytes path) := by
  refine ((blames_ofRule path?_of_parse).bind fun address => ?_).traced
  have hblob : Blames path (Client.blob address.container address.blob) := by
    refine (blames_get.bind fun _ => blames_pure _).bind fun found => ?_
    cases found.bind (·.get? address.blob) with
    | none => exact blames_meet _
    | some object => exact blames_pure _
  have hfetch : Blames path (orMissing .file .fetchBlob path do
      let content ← Client.downloadBlob address.container address.blob
      Client.readAll address.container address.blob content) := by
    refine Blames.wrapping ?_ fun incident => ?_
    · refine ((blames_perform _).bind fun _ => hblob.bind fun _ => blames_pure _).bind fun _ => ?_
      exact (blames_perform _).bind fun _ => blames_pure _
    · split
      · rfl
      · rfl
  exact blames_ite ((blames_raise rfl).bind fun _ => hfetch) hfetch

theorem blames_writeText (path : Text) (text : String) : Blames path (writeText path text) := by
  refine ((blames_ofRule path?_of_parse).bind fun address => ?_).traced
  have hupload : Blames path
      (during .uploadBlob path (Client.upload address.container address.blob text.toUTF8)) := by
    refine ((blames_perform _).bind fun _ => ?_).during
    refine (blames_get.bind fun _ => blames_pure _).bind fun found => ?_
    cases found with
    | none => exact blames_meet _
    | some objects => exact blames_modify _
  exact blames_ite ((blames_raise rfl).bind fun _ => hupload) hupload

end Azure

/-! ## Operations of backends -/

namespace Backend

variable {kind : Kind} {path : Text}

theorem blames_contents (kind : Kind) (path : Text) : Blames path (contents kind path) := by
  cases kind with
  | disk => exact Local.blames_contents path
  | gcs => exact Gcs.blames_contents path
  | s3 => exact S3.blames_contents path
  | azure => exact Azure.blames_contents path

theorem blames_readBytes (kind : Kind) (path : Text) : Blames path (readBytes kind path) := by
  cases kind with
  | disk => exact Local.blames_readBytes path
  | gcs => exact Gcs.blames_readBytes path
  | s3 => exact S3.blames_readBytes path
  | azure => exact Azure.blames_readBytes path

/-- A fault of a traced operation names the path that it was asked for, but for a localization. -/
theorem Operates.blames {α : Type} {operation : Operation} {action : Action α}
    (h : Operates operation kind path action) (hoperation : operation ≠ .localize) :
    Blames path action := by
  cases h with
  | contents => exact blames_contents kind path
  | readBytes => exact blames_readBytes kind path
  | writeBytes _ content => exact Local.blames_writeBytes path content
  | writeText hkind _ text =>
      obtain rfl | rfl := hkind
      · exact Local.blames_writeBytes path _
      · exact Azure.blames_writeText path text
  | deleteTree => exact Local.blames_deleteTree path
  | localize => exact absurd rfl hoperation

end Backend

end ArtifactDepot
