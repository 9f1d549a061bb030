import ArtifactDepot.Proofs.Clients
import ArtifactDepot.Proofs.Gives

/-!
# Requests that fail

Which requests to the object stores failed in a run, and how, can be read off
the recorded calls: a rule is laid down for the request, or the store refuses
it.  `Action.Tells` relates the outcome of an action to these failures, with
one rule for each way of composing actions, and `Action.Explained` is the
relation that the operations of a backend are meant to keep: a failed request
ends the operation with a fault that it is the cause of.
-/

namespace ArtifactDepot

open ArtifactDepot.Action

/-! ## Failures of requests -/

namespace Call

/-- The refusal of a request by a store with such buckets. -/
def refusal? (cloud : Cloud) : Call → Option Incident
  | .headBucket bucket =>
      if (cloud.bucket? .s3 bucket).isSome then none
      else some (S3.Client.refusal "404" "HeadBucket")
  | .listObjects bucket _ _ _ =>
      if (cloud.bucket? .s3 bucket).isSome then none
      else some (S3.Client.refusal "NoSuchBucket" "ListObjectsV2")
  | .headObject bucket key =>
      match cloud.bucket? .s3 bucket with
      | none => some (S3.Client.refusal "NoSuchBucket" "HeadObject")
      | some found =>
          if (found.get? key).isSome then none else some (S3.Client.refusal "404" "HeadObject")
  | .getObject bucket key =>
      match cloud.bucket? .s3 bucket with
      | none => some (S3.Client.refusal "NoSuchBucket" "GetObject")
      | some found =>
          if (found.get? key).isSome then none else some (S3.Client.refusal "NoSuchKey" "GetObject")
  | .listBlobs bucket _ _ =>
      if (cloud.bucket? .gcs bucket).isSome then none else some (Gcs.Client.noSuchBucket bucket)
  | .walkBlobs container _ | .uploadBlob container _ _ =>
      if (cloud.bucket? .azure container).isSome then none else some Azure.Client.notFound
  | .getBlobProperties container blob | .downloadBlob container blob =>
      if ((cloud.bucket? .azure container).bind (·.get? blob)).isSome then none
      else some Azure.Client.notFound
  | _ => none

/-- How a request to a store fails when such rules are laid down, if it does. -/
def failure? (cloud : Cloud) (rules : List Rule) (call : Call) : Option Incident :=
  if call.bucket?.isSome then (Rule.struck? rules call).or (call.refusal? cloud) else none

/-- The requests to the stores that fail among calls in this order, each with its failure. -/
def failures (cloud : Cloud) : List Rule → List Call → List (Call × Incident)
  | _, [] => []
  | rules, call :: calls =>
      ((call.failure? cloud rules).map (call, ·)).toList ++
        failures cloud (Rule.spentBy rules call) calls

theorem failures_append (cloud : Cloud) (rules : List Rule) (calls more : List Call) :
    failures cloud rules (calls ++ more) =
      failures cloud rules calls ++ failures cloud (Rule.spent rules calls) more := by
  induction calls generalizing rules with
  | nil => rfl
  | cons call calls ih =>
      rw [List.cons_append, failures, failures, ih, List.append_assoc]
      rfl

/-- Calls that go to no store are none of them. -/
theorem failures_of_apart {cloud : Cloud} {calls : List Call} (rules : List Rule)
    (h : ∀ call ∈ calls, call.bucket? = none) : failures cloud rules calls = [] := by
  induction calls generalizing rules with
  | nil => rfl
  | cons call calls ih =>
      have hcall : call.failure? cloud rules = none := by
        rw [failure?, h call (List.mem_cons_self ..)]
        rfl
      rw [failures, hcall, ih _ fun other hother => h other (List.mem_cons_of_mem _ hother)]
      rfl

end Call

/-- A call fails exactly if a rule is laid down for it. -/
theorem Action.perform_struck (call : Call) (site : Site) :
    perform call site =
      match Rule.struck? site.rules call with
      | none => .ok () (site.having call)
      | some incident => .error (.incident incident) (site.having call) := by
  rw [perform_eq, Rule.struck?]
  cases Rule.strike? call.row site.rules <;> rfl

/-! ## What actions tell of failed requests -/

namespace Action

variable {α β : Type}

/-- What may become of a run, and of which requests that fail in it. -/
abbrev Account (α : Type) := Except Failure α → List (Call × Incident) → Prop

/-- What becomes of the action, and which requests fail in it, is as the account says. -/
def Tells (account : Site → Account α) (action : Action α) : Prop :=
  ∀ site, ∃ made, Site.Made made site (after action site) ∧
    account site (result action site) (Call.failures site.cloud site.rules made)

section Composition

variable {account : Site → Account α}

theorem tells_pure {value : α} (h : ∀ site, account site (.ok value) []) :
    Tells account (pure value) := fun site =>
  ⟨[], ⟨(List.append_nil _).symm, rfl, Nat.le_refl _⟩, h site⟩

theorem tells_throw {failure : Failure} (h : ∀ site, account site (.error failure) []) :
    Tells account (throw failure) := fun site =>
  ⟨[], ⟨(List.append_nil _).symm, rfl, Nat.le_refl _⟩, h site⟩

theorem Tells.mono {wider : Site → Account α} {action : Action α} (h : Tells account action)
    (hwider : ∀ {site result failures}, account site result failures → wider site result failures) :
    Tells wider action := fun site => by
  obtain ⟨made, hmade, haccount⟩ := h site
  exact ⟨made, hmade, hwider haccount⟩

theorem tells_ite {condition : Prop} [Decidable condition] {action other : Action α}
    (h : Tells account action) (hother : Tells account other) :
    Tells account (if condition then action else other) := by
  by_cases hcondition : condition
  · rw [if_pos hcondition]
    exact h
  · rw [if_neg hcondition]
    exact hother

theorem tells_bind_get {next : Site → Action α} (h : ∀ site, Tells account (next site)) :
    Tells account ((get : Action Site) >>= next) := fun site => h site site

/-- Only the value is changed. -/
theorem Tells.map {first : Site → Account β} {action : Action β} {change : β → α}
    (h : Tells first action)
    (hok : ∀ {site value failures}, first site (.ok value) failures →
      account site (.ok (change value)) failures)
    (herror : ∀ {site failure failures}, first site (.error failure) failures →
      account site (.error failure) failures) :
    Tells account (action >>= fun value => pure (change value)) := by
  intro site
  obtain ⟨made, hmade, hfirst⟩ := h site
  cases hrun : action site with
  | ok value site' =>
      have hwhole : (action >>= fun value => pure (change value)) site =
          .ok (change value) site' := bind_ok hrun
      rw [after_ok hrun] at hmade
      rw [result_of_ok hrun] at hfirst
      exact ⟨made, by rwa [after_ok hwhole], by rw [result_of_ok hwhole]; exact hok hfirst⟩
  | error failure site' =>
      rw [after_error hrun] at hmade
      rw [result_of_error hrun] at hfirst
      exact ⟨made, by rwa [after_error (bind_error hrun)],
        by rw [result_of_error (bind_error hrun)]; exact herror hfirst⟩

/-- One after the other: the failures of the first action come first. -/
theorem Tells.bind {first : Site → Account β} {second : β → Site → Account α} {action : Action β}
    {next : β → Action α} (h : Tells first action) (hkeeps : Keeps Site.Recorded action)
    (hnext : ∀ value, Tells (second value) (next value))
    (hok : ∀ {site site' value failures result more}, first site (.ok value) failures →
      second value site' result more → account site result (failures ++ more))
    (herror : ∀ {site failure failures}, first site (.error failure) failures →
      account site (.error failure) failures) :
    Tells account (action >>= next) := by
  intro site
  obtain ⟨made, hmade, hfirst⟩ := h site
  cases hrun : action site with
  | error failure site' =>
      rw [after_error hrun] at hmade
      rw [result_of_error hrun] at hfirst
      exact ⟨made, by rwa [after_error (bind_error hrun)],
        by rw [result_of_error (bind_error hrun)]; exact herror hfirst⟩
  | ok value site' =>
      rw [after_ok hrun] at hmade
      rw [result_of_ok hrun] at hfirst
      obtain ⟨more, hmore, hsecond⟩ := hnext value site'
      have hresult : result (action >>= next) site = result (next value) site' := by
        simp only [result, bind_ok hrun]
      refine ⟨made ++ more, ?_, ?_⟩
      · rw [after_bind_ok hrun]
        exact hmade.append hmore
      · rw [(hkeeps.ok hrun).cloud_eq, hmade.rules_eq] at hsecond
        rw [hresult, Call.failures_append]
        exact hok hfirst hsecond

/-- A recovery that asks for nothing leaves the failures as they are. -/
theorem Tells.recover {first : Site → Account α} {action : Action α}
    {handler : Failure → Action α} (h : Tells first action)
    (hquiet : ∀ failure site, after (handler failure) site = site)
    (hok : ∀ {site value failures}, first site (.ok value) failures →
      account site (.ok value) failures)
    (herror : ∀ {site failure failures} site', first site (.error failure) failures →
      account site (result (handler failure) site') failures) :
    Tells account (Action.recover action handler) := by
  intro site
  obtain ⟨made, hmade, hfirst⟩ := h site
  cases hrun : action site with
  | ok value site' =>
      rw [after_ok hrun] at hmade
      rw [result_of_ok hrun] at hfirst
      exact ⟨made, by rwa [after_ok (recover_ok hrun)],
        by rw [result_of_ok (recover_ok hrun)]; exact hok hfirst⟩
  | error failure site' =>
      rw [after_error hrun] at hmade
      rw [result_of_error hrun] at hfirst
      have hresult : result (Action.recover action handler) site =
          result (handler failure) site' := by
        simp only [result, recover_error hrun]
      refine ⟨made, ?_, ?_⟩
      · rwa [after_recover_error hrun, hquiet]
      · rw [hresult]
        exact herror site' hfirst

/-- Incidents become faults. -/
theorem Tells.wrapping {first : Site → Account α} {wrap : Incident → Fault} {action : Action α}
    (h : Tells first action)
    (hok : ∀ {site value failures}, first site (.ok value) failures →
      account site (.ok value) failures)
    (hfault : ∀ {site fault failures}, first site (.error (.fault fault)) failures →
      account site (.error (.fault fault)) failures)
    (hincident : ∀ {site incident failures}, first site (.error (.incident incident)) failures →
      account site (.error (.fault (wrap incident))) failures) :
    Tells account (Action.wrapping wrap action) := by
  refine h.recover (fun failure site => ?_) hok fun {site failure failures} site' hfirst => ?_
  · cases failure <;> rfl
  · cases failure with
    | fault fault => exact hfault hfirst
    | incident incident => exact hincident hfirst

end Composition

/-! ## The accounts of operations -/

/-- One request to a store, and nothing else that fails. -/
inductive Asked (call : Call) : Account α
  | answered (value : α) : Asked call (.ok value) []
  | failed (incident : Incident) : Asked call (.error (.incident incident)) [(call, incident)]

/-- A failed request ends the run as it is. -/
inductive Bare : Account α
  | answered (value : α) : Bare (.ok value) []
  | refused {fault : Fault} (hcause : fault.cause? = none) : Bare (.error (.fault fault)) []
  | failed (call : Call) (incident : Incident) :
      Bare (.error (.incident incident)) [(call, incident)]

/-- Is the failure one by which a store of the kind says that nothing is there? -/
def Accepts (kind : Kind) (incident : Incident) : Prop :=
  match kind with
  | .disk | .gcs => False
  | .s3 => S3.Client.isMissing incident = .ok true
  | .azure => Azure.Client.isMissing incident = true

/--
A failed request ends the run with a fault that it is the cause of, and only a failure that says
so lets the path count as missing.  A failure of S3 whose response cannot be read passes as that,
and a run can be stopped before it begins.
-/
inductive Explained (kind : Kind) (stopped : Incident → Prop) : Account α
  | answered (value : α) : Explained kind stopped (.ok value) []
  | refused {fault : Fault} (hcause : fault.cause? = none) :
      Explained kind stopped (.error (.fault fault)) []
  | caused (call : Call) {incident : Incident} {fault : Fault}
      (hcause : fault.cause? = some (.incident incident))
      (hkind : fault.kind = .backend ∨ fault.kind = .pathNotFound ∧ Accepts kind incident) :
      Explained kind stopped (.error (.fault fault)) [(call, incident)]
  | malformed (call : Call) {incident problem : Incident} (hkind : kind = .s3)
      (hproblem : S3.Client.isMissing incident = .error problem) :
      Explained kind stopped (.error (.incident problem)) [(call, incident)]
  | stopped {incident : Incident} (h : stopped incident) :
      Explained kind stopped (.error (.incident incident)) []

section Accounts

variable {call : Call} {kind : Kind} {action : Action α}

theorem Explained.mono {stopped wider : Incident → Prop} {result : Except Failure α}
    {failures : List (Call × Incident)} (h : Explained kind stopped result failures)
    (hwider : ∀ incident, stopped incident → wider incident) :
    Explained kind wider result failures := by
  cases h with
  | answered value => exact .answered value
  | refused hcause => exact .refused hcause
  | caused call hcause hkind => exact .caused call hcause hkind
  | malformed call hkind hproblem => exact .malformed call hkind hproblem
  | stopped h => exact .stopped (hwider _ h)

/-- What an error says does not depend on the value that there might have been. -/
theorem Explained.error {stopped : Incident → Prop} {failure : Failure}
    {failures : List (Call × Incident)}
    (h : Explained kind stopped (.error failure : Except Failure α) failures) :
    Explained kind stopped (.error failure : Except Failure β) failures := by
  cases h with
  | refused hcause => exact .refused hcause
  | caused call hcause hkind => exact .caused call hcause hkind
  | malformed call hkind hproblem => exact .malformed call hkind hproblem
  | stopped h => exact .stopped h

/-- A request, and the answer of the store to it. -/
theorem tells_request {answer : Action α} (hdata : call.bucket?.isSome = true)
    (hanswer : ∀ site, (∃ value site', answer site = .ok value site' ∧ Site.Made [] site site' ∧
        call.refusal? site.cloud = none) ∨
      ∃ incident, answer site = .error (.incident incident) site ∧
        call.refusal? site.cloud = some incident) :
    Tells (fun _ => Asked call) (perform call >>= fun _ => answer) := by
  intro site
  have hfailures (failure : Option Incident)
      (h : (Rule.struck? site.rules call).or (call.refusal? site.cloud) = failure) :
      Call.failures site.cloud site.rules [call] = (failure.map (call, ·)).toList := by
    rw [Call.failures, Call.failure?, if_pos hdata, h]
    exact List.append_nil _
  have hperform := perform_struck call site
  cases hstruck : Rule.struck? site.rules call with
  | some incident =>
      rw [hstruck] at hperform hfailures
      refine ⟨[call], ?_, ?_⟩
      · rw [after_error (bind_error hperform)]
        exact site.made_having call
      · rw [result_of_error (bind_error hperform), hfailures _ rfl]
        exact .failed incident
  | none =>
      rw [hstruck] at hperform hfailures
      rcases hanswer (site.having call) with
        ⟨value, site', hrun, hmade, hrefusal⟩ | ⟨incident, hrun, hrefusal⟩
      · have hwhole : (perform call >>= fun _ => answer) site = .ok value site' :=
          (bind_ok hperform).trans hrun
        refine ⟨[call], ?_, ?_⟩
        · rw [after_ok hwhole]
          exact (site.made_having call).append hmade
        · rw [result_of_ok hwhole, hfailures none hrefusal]
          exact .answered value
      · have hwhole : (perform call >>= fun _ => answer) site =
            .error (.incident incident) (site.having call) := (bind_ok hperform).trans hrun
        refine ⟨[call], ?_, ?_⟩
        · rw [after_error hwhole]
          exact site.made_having call
        · rw [result_of_error hwhole, hfailures _ hrefusal]
          exact .failed incident

theorem Tells.bare (h : Tells (fun _ => Asked call) action) : Tells (fun _ => Bare) action := by
  refine h.mono fun {site result failures} hasked => ?_
  cases hasked with
  | answered value => exact .answered value
  | failed incident => exact .failed call incident

theorem bare_bind {next : α → Action β} (h : Tells (fun _ => Bare) action)
    (hkeeps : Keeps Site.Recorded action) (hnext : ∀ value, Tells (fun _ => Bare) (next value)) :
    Tells (fun _ => Bare) (action >>= next) := by
  refine h.bind hkeeps hnext (fun hfirst hsecond => ?_) fun hfirst => ?_
  · cases hfirst
    exact hsecond
  · cases hfirst with
    | refused hcause => exact .refused hcause
    | failed call incident => exact .failed call incident

theorem bare_map {change : α → β} (h : Tells (fun _ => Bare) action) :
    Tells (fun _ => Bare) (action >>= fun value => pure (change value)) := by
  refine h.map (fun hfirst => ?_) fun hfirst => ?_
  · cases hfirst
    exact .answered _
  · cases hfirst with
    | refused hcause => exact .refused hcause
    | failed call incident => exact .failed call incident

variable {stopped : Site → Incident → Prop}

/-- Only the first of several actions can be stopped before it begins. -/
theorem explained_bind {next : α → Action β}
    (h : Tells (fun site => Explained kind (stopped site)) action)
    (hkeeps : Keeps Site.Recorded action)
    (hnext : ∀ value, Tells (fun _ => Explained kind fun _ => False) (next value)) :
    Tells (fun site => Explained kind (stopped site)) (action >>= next) := by
  refine h.bind hkeeps hnext (fun hfirst hsecond => ?_) fun hfirst => ?_
  · cases hfirst
    exact hsecond.mono fun _ => False.elim
  · exact hfirst.error

theorem explained_map {change : α → β}
    (h : Tells (fun site => Explained kind (stopped site)) action) :
    Tells (fun site => Explained kind (stopped site))
      (action >>= fun value => pure (change value)) := by
  refine h.map (fun hfirst => ?_) Explained.error
  cases hfirst
  exact .answered _

/-- A rule that refuses its argument has no cause but the argument. -/
theorem explained_rule {rule : Except Fault β} {next : β → Action α}
    (hrule : ∀ fault, rule = .error fault → fault.cause? = none)
    (hnext : ∀ value, Tells (fun _ => Explained kind fun _ => False) (next value)) :
    Tells (fun _ => Explained kind fun _ => False) (ofRule rule >>= next) := by
  cases rule with
  | error fault => exact tells_throw fun _ => .refused (hrule fault rfl)
  | ok value => exact hnext value

/-- A failure during a task is the cause of its fault. -/
theorem explained_during (task : Task) (path : Text) (h : Tells (fun _ => Bare) action) :
    Tells (fun _ => Explained kind fun _ => False) (during task path action) := by
  refine h.wrapping (fun hbare => ?_) (fun hbare => ?_) fun hbare => ?_
  · cases hbare
    exact .answered _
  · cases hbare with
    | refused hcause => exact .refused hcause
  · cases hbare with
    | failed call incident => exact .caused call rfl (Or.inl rfl)

theorem explained_filterM {choose : β → Action Bool}
    (h : ∀ value, Tells (fun _ => Explained kind fun _ => False) (choose value))
    (hkeeps : ∀ value, Keeps Site.Recorded (choose value)) (values : List β) :
    Tells (fun _ => Explained kind fun _ => False) (values.filterM choose) := by
  have haux (chosen : List β) :
      Tells (fun _ => Explained kind fun _ => False) (values.filterAuxM choose chosen) ∧
        Keeps Site.Recorded (values.filterAuxM choose chosen) := by
    induction values generalizing chosen with
    | nil => exact ⟨tells_pure fun _ => .answered _, keeps_pure _⟩
    | cons value values ih =>
        exact ⟨explained_bind (h value) (hkeeps value) fun _ => (ih _).1,
          keeps_bind (hkeeps value) fun _ => (ih _).2⟩
  exact explained_map (haux []).1

end Accounts

end Action

/-! ## Tracing -/

/-- Only calls that go to no store were made between the sites, and the stores are the same. -/
def Site.Idle (before after : Site) : Prop :=
  ∃ made, Site.Made made before after ∧ (∀ call ∈ made, call.bucket? = none) ∧
    after.cloud = before.cloud

namespace Site

theorem idle_of_calls_eq {before after : Site} (hcalls : after.calls = before.calls)
    (hrules : after.rules = before.rules) (hnext : before.serials.next ≤ after.serials.next)
    (hcloud : after.cloud = before.cloud) : Idle before after :=
  ⟨[], ⟨by rw [hcalls, List.append_nil], hrules, hnext⟩, nofun, hcloud⟩

instance : IsPreorder Site Idle where
  refl _ := idle_of_calls_eq rfl rfl (Nat.le_refl _) rfl
  trans := by
    rintro first second third ⟨made, hmade, hapart, hcloud⟩ ⟨more, hmore, hapart', hcloud'⟩
    refine ⟨made ++ more, hmade.append hmore, fun call hcall => ?_, hcloud'.trans hcloud⟩
    exact (List.mem_append.1 hcall).elim (hapart call) (hapart' call)

end Site

namespace Trace

theorem writes_idle : Writes Site.Idle where
  update _ := keeps_modify fun _ => Site.idle_of_calls_eq rfl rfl (Nat.le_refl _) rfl
  perform _ _ site := by
    rw [after_perform]
    exact ⟨_, site.made_having _, by simp [Call.bucket?], rfl⟩
  note _ := keeps_modify fun _ => Site.idle_of_calls_eq rfl rfl (Nat.le_refl _) rfl
  refuse _ := keeps_modify fun _ => Site.idle_of_calls_eq rfl rfl (Nat.le_refl _) rfl

/-- Tracing adds no failure of a request, and it stops nothing but what has not begun. -/
theorem explained_traced {α : Type} {kind : Kind} {action : Action α} (operation : Operation)
    (path : Text) (h : Tells (fun _ => Explained kind fun _ => False) action) :
    Tells (fun site => Explained kind (Stops site path)) (traced operation kind path action) := by
  intro site
  rcases traced_by writes_idle operation kind path action site with
    ⟨incident, site', hrun, ⟨made, hmade, hapart, -⟩, hstopped, -⟩ | hframed
  · refine ⟨made, by rwa [after_error hrun], ?_⟩
    rw [result_of_error hrun, Call.failures_of_apart _ hapart]
    exact .stopped hstopped
  · have hwhole {site₁ site₂ site' : Site} (hbefore : Site.Idle site site₁)
        (hafter : after action site₁ = site₂) (hlast : Site.Idle site₂ site') :
        ∃ made, Site.Made made site site' ∧
          Explained kind (fun _ => False) (result action site₁)
            (Call.failures site.cloud site.rules made) := by
      obtain ⟨earlier, hearlier, hapart, hcloud⟩ := hbefore
      obtain ⟨later, hlater, hapart', -⟩ := hlast
      obtain ⟨made, hmade, haccount⟩ := h site₁
      rw [hafter] at hmade
      refine ⟨earlier ++ made ++ later, (hearlier.append hmade).append hlater, ?_⟩
      rw [Call.failures_append, Call.failures_append, Call.failures_of_apart _ hapart,
        Call.failures_of_apart _ hapart', List.nil_append, List.append_nil, ← hcloud,
        ← hearlier.rules_eq]
      exact haccount
    cases hframed with
    | ok hbefore hrun hlast hresult =>
        obtain ⟨made, hmade, haccount⟩ := hwhole hbefore (after_ok hrun) hlast
        refine ⟨made, by rwa [after_ok hresult], ?_⟩
        rw [result_of_ok hrun] at haccount
        rw [result_of_ok hresult]
        exact haccount.mono fun _ => False.elim
    | error hbefore hrun hlast hresult =>
        obtain ⟨made, hmade, haccount⟩ := hwhole hbefore (after_error hrun) hlast
        refine ⟨made, by rwa [after_error hresult], ?_⟩
        rw [result_of_error hrun] at haccount
        rw [result_of_error hresult]
        exact haccount.mono fun _ => False.elim

end Trace

end ArtifactDepot
