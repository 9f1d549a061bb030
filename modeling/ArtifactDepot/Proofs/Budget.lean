import ArtifactDepot.Pool
import ArtifactDepot.Proofs.Loading
import ArtifactDepot.Proofs.Traced

/-!
# What an action spends

Credential documents are read and clients are built rarely, so these two kinds
of calls are counted.  `Spends` bounds how many of each an action makes, failed
or not; the bounds of actions that follow one another add up.  An attempt of a
pool builds at most one client, and a resolution, whatever happens, at most two
of them while it reads at most two documents.
-/

namespace ArtifactDepot

open ArtifactDepot.Action

namespace Call

/-- Is a credential document read? -/
def isRead : Call → Bool
  | .readConfig _ => true
  | _ => false

/-- Is a client built?  A scripted factory counts as one, whatever it builds. -/
def isOpening : Call → Bool
  | .openS3Client .. | .openGcsClient .. | .openAzureClient .. | .buildBackend .. => true
  | _ => false

end Call

namespace Site

variable {reads openings reads' openings' : Nat} {first second third : Site}

/-- At most so many documents have been read, and at most so many clients built. -/
def Spent (reads openings : Nat) (before after : Site) : Prop :=
  ∃ made, after.calls = before.calls ++ made ∧
    made.countP Call.isRead ≤ reads ∧ made.countP Call.isOpening ≤ openings

theorem Spent.mono (h : Spent reads openings first second) (hreads : reads ≤ reads')
    (hopenings : openings ≤ openings') : Spent reads' openings' first second := by
  obtain ⟨made, hcalls, hread, hopened⟩ := h
  exact ⟨made, hcalls, Nat.le_trans hread hreads, Nat.le_trans hopened hopenings⟩

theorem Spent.add (h : Spent reads openings first second)
    (h' : Spent reads' openings' second third) :
    Spent (reads + reads') (openings + openings') first third := by
  obtain ⟨made, hcalls, hread, hopened⟩ := h
  obtain ⟨more, hcalls', hread', hopened'⟩ := h'
  refine ⟨made ++ more, by rw [hcalls', hcalls, List.append_assoc], ?_, ?_⟩
  · rw [List.countP_append]
    exact Nat.add_le_add hread hread'
  · rw [List.countP_append]
    exact Nat.add_le_add hopened hopened'

theorem spent_of_calls_eq (h : second.calls = first.calls) : Spent 0 0 first second :=
  ⟨[], by rw [h, List.append_nil], Nat.le_refl _, Nat.le_refl _⟩

instance : IsPreorder Site (Spent 0 0) where
  refl _ := spent_of_calls_eq rfl
  trans _ _ _ := Spent.add

end Site

namespace Action

variable {α β : Type} {reads openings reads' openings' : Nat} {action : Action α}

/-- The action reads at most so many documents and builds at most so many clients. -/
abbrev Spends (reads openings : Nat) (action : Action α) : Prop :=
  Keeps (Site.Spent reads openings) action

/-! ## Composing budgets -/

theorem Spends.mono (h : Spends reads openings action) (hreads : reads ≤ reads')
    (hopenings : openings ≤ openings') : Spends reads' openings' action :=
  fun site => (h site).mono hreads hopenings

theorem Spends.bind {next : α → Action β} (h : Spends reads openings action)
    (hnext : ∀ value, Spends reads' openings' (next value)) :
    Spends (reads + reads') (openings + openings') (action >>= next) := by
  intro site
  cases hrun : action site with
  | ok value site' =>
      rw [after_bind_ok hrun]
      exact (h.ok hrun).add (hnext value site')
  | error failure site' =>
      rw [after_error (bind_error hrun)]
      exact (h.error hrun).mono (Nat.le_add_right ..) (Nat.le_add_right ..)

theorem Spends.recover {handler : Failure → Action α} (h : Spends reads openings action)
    (hhandler : ∀ failure, Spends reads' openings' (handler failure)) :
    Spends (reads + reads') (openings + openings') (recover action handler) := by
  intro site
  cases hrun : action site with
  | ok value site' =>
      rw [after_ok (recover_ok hrun)]
      exact (h.ok hrun).mono (Nat.le_add_right ..) (Nat.le_add_right ..)
  | error failure site' =>
      rw [after_recover_error hrun]
      exact (h.error hrun).add (hhandler failure site')

theorem Spends.wrapping {wrap : Incident → Fault} (h : Spends reads openings action) :
    Spends reads openings (wrapping wrap action) := by
  change Spends (reads + 0) (openings + 0) (action.recover _)
  refine h.recover fun failure => ?_
  cases failure with
  | incident incident => exact keeps_throw _
  | fault fault => exact keeps_throw _

/-- A call spends what it is counted as. -/
theorem spends_perform (call : Call) :
    Spends ([call].countP Call.isRead) ([call].countP Call.isOpening) (perform call) := fun site =>
  ⟨[call], calls_after_perform call site, Nat.le_refl _, Nat.le_refl _⟩

theorem spends_modify {change : Site → Site} (h : ∀ site, (change site).calls = site.calls) :
    Spends 0 0 (modify change : Action Unit) :=
  keeps_modify fun site => Site.spent_of_calls_eq (h site)

end Action

/-! ## Asking S3 for a directory -/

namespace S3

theorem Client.spends_bucket (name : Text) (code operation : String) :
    Spends 0 0 (bucket name code operation) := by
  refine keeps_bind keeps_get fun site => ?_
  cases site.cloud.bucket? .s3 name with
  | none => exact keeps_throw _
  | some found => exact keeps_pure _

theorem Client.spends_headBucket (name : Text) : Spends 0 0 (headBucket name) :=
  keeps_bind (spends_perform (.headBucket name)) fun _ => keeps_discard (spends_bucket _ _ _)

theorem Client.spends_listObjects (name start : Text) (most token : Option Nat) :
    Spends 0 0 (listObjects name start most token) :=
  keeps_bind (spends_perform (.listObjects name start most token)) fun _ =>
    keeps_bind (spends_bucket _ _ _) fun _ => keeps_bind keeps_get fun _ => keeps_pure _

theorem spends_isDirectory (path : Text) : Spends 0 0 (isDirectory path) := by
  refine keeps_bind (keeps_ofRule _) fun address => ?_
  apply keeps_bind (keeps_during (Client.spends_headBucket _))
  intro _
  refine keeps_ite (keeps_pure _) ?_
  exact keeps_bind (keeps_during (Client.spends_listObjects _ _ _ _)) fun _ => keeps_pure _

theorem spends_probe (path : Text) : Spends 0 0 (probe path) := by
  refine keeps_recover (keeps_discard (spends_isDirectory path)) fun failure => ?_
  cases failure with
  | fault fault => exact keeps_throw _
  | incident incident => exact keeps_throw _

end S3

/-! ## Opening, probing and closing backends -/

namespace Backend

variable {reads openings : Nat}

theorem spends_obey (verdict : Verdict) (words : String) : Spends 0 0 (obey verdict words) := by
  cases verdict with
  | pass => exact keeps_pure _
  | broken => exact keeps_throw _
  | fault kind => exact keeps_throw _

theorem spends_updateScript (number : Nat) (change : Script → Script) :
    Spends 0 0 (updateScript number change) := spends_modify fun _ => rfl

theorem spends_nextProbe? (number : Nat) : Spends 0 0 (nextProbe? number) := by
  refine keeps_bind keeps_get fun site => ?_
  cases (site.scripts.getD number {}).probes with
  | nil => exact keeps_pure _
  | cons verdict others => exact keeps_bind (spends_updateScript _ _) fun _ => keeps_pure _

theorem spends_probeKind (kind : Kind) (path : Text) : Spends 0 0 (probeKind kind path) := by
  cases kind with
  | s3 => exact S3.spends_probe path
  | disk => exact keeps_pure _
  | gcs => exact keeps_pure _
  | azure => exact keeps_pure _

theorem spends_probe (backend : Backend) (path : Text) : Spends 0 0 (backend.probe path) := by
  unfold probe
  cases backend.script with
  | none => exact spends_probeKind _ _
  | some number =>
      refine keeps_bind (spends_perform (.probeBackend backend.kind path)) fun _ => ?_
      refine keeps_bind (spends_nextProbe? number) fun verdict => ?_
      cases verdict with
      | none => exact spends_probeKind _ _
      | some verdict => exact spends_obey verdict _

end Backend

/-! ## Keyrings -/

namespace Keyring

end Keyring

/-! ## Pools -/

namespace Pool

variable (pool : Pool) (kind : Kind) (path : Option Text)

end Pool

end ArtifactDepot
