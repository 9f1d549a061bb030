import ArtifactDepot.Trace.Setup
import Mathlib.Order.Defs.Unbundled

/-!
# What actions leave alone

Asking an object store, tracing and logging change a site only in what is
recorded about the run: the calls, the log records, the spans and the uses
that rules have left.  `Site.Recorded` relates two such sites, and
`Site.Silent` two between which no content was transferred either.  An action
keeps a relation when every site is related to the one that it leaves, and
the relation passes through every way of composing actions.
-/

namespace ArtifactDepot

open ArtifactDepot.Action

/-! ## Rules that are used up -/

/-- No rule applies to a row just when neither the first nor the others do. -/
theorem Rule.strike?_cons_eq_none {row : List Json} {rule : Rule} {others : List Rule} :
    Rule.strike? row (rule :: others) = none ↔
      rule.applies row = false ∧ Rule.strike? row others = none := by
  cases happlies : rule.applies row with
  | true => simp [Rule.strike?, happlies]
  | false => simp [Rule.strike?, happlies]

/-- A use of a rule makes no rule apply to a row that none applied to. -/
theorem Rule.strike?_eq_none_after {row other : List Json} {rules rules' : List Rule}
    {incident : Incident} (hnone : Rule.strike? row rules = none)
    (hstruck : Rule.strike? other rules = some (incident, rules')) :
    Rule.strike? row rules' = none := by
  induction rules generalizing rules' with
  | nil => cases hstruck
  | cons rule others ih =>
      obtain ⟨hrule, hothers⟩ := Rule.strike?_cons_eq_none.1 hnone
      cases happlies : rule.applies other with
      | true =>
          simp only [Rule.strike?, happlies, if_true, Option.some.injEq, Prod.mk.injEq] at hstruck
          obtain ⟨-, rfl⟩ := hstruck
          refine Rule.strike?_cons_eq_none.2 ⟨?_, hothers⟩
          have hlive : (rule.times != 0) = true := by
            simp only [Rule.applies, Bool.and_eq_true] at happlies
            exact happlies.1
          simp only [Rule.applies, hlive, Bool.true_and] at hrule
          simp [Rule.applies, hrule]
      | false =>
          simp only [Rule.strike?, happlies, Bool.false_eq_true, if_false] at hstruck
          obtain ⟨⟨found, rest⟩, hrest, heq⟩ := Option.map_eq_some_iff.1 hstruck
          cases heq
          exact Rule.strike?_cons_eq_none.2 ⟨hrule, ih hothers hrest⟩

/-! ## Calls -/

namespace Call

/-- Is it a call by which the content of an object is transferred? -/
def isTransfer : Call → Bool
  | .download .. | .getObject .. | .readBody .. | .downloadBlob .. | .readAll .. => true
  | _ => false

/-- The bucket that a request to an object store is about. -/
def bucket? : Call → Option (Kind × Text)
  | .lookupBucket bucket | .getBlob bucket _ | .listBlobs bucket _ _ | .download bucket _ =>
      some (.gcs, bucket)
  | .headBucket bucket | .listObjects bucket _ _ _ | .headObject bucket _ | .getObject bucket _
  | .readBody bucket _ => some (.s3, bucket)
  | .containerExists bucket | .walkBlobs bucket _ | .blobExists bucket _
  | .getBlobProperties bucket _ | .downloadBlob bucket _ | .readAll bucket _
  | .uploadBlob bucket _ _ => some (.azure, bucket)
  | _ => none

/-- The calls that transfer the content of an object. -/
def transfersOf : Kind → Text → Text → List Call
  | .disk, _, _ => []
  | .gcs, bucket, key => [.download bucket key]
  | .s3, bucket, key => [.getObject bucket key, .readBody bucket key]
  | .azure, bucket, key => [.downloadBlob bucket key, .readAll bucket key]

end Call

/-! ## Relations between sites -/

namespace Site

/-- The transfers that have been asked for. -/
def transfers (site : Site) : List Call := site.calls.filter Call.isTransfer

/-- No rule applies to a request about the bucket. -/
def Answers (site : Site) (kind : Kind) (bucket : Text) : Prop :=
  ∀ call : Call, call.bucket? = some (kind, bucket) → Rule.strike? call.row site.rules = none

/-- The site without what a run records about itself. -/
def bare (site : Site) : Site :=
  { site with calls := [], notices := [], refusals := [], tracing := {}, rules := [] }

/-- The second site differs from the first one only in what a run records about itself. -/
structure Recorded (before after : Site) : Prop where
  bare_eq : after.bare = before.bare
  /-- No rule applies to a row that none applied to. -/
  calm : ∀ row, Rule.strike? row before.rules = none → Rule.strike? row after.rules = none
  configured : before.tracing.configured = true → after.tracing.configured = true

/-- In addition no content has been transferred. -/
structure Silent (before after : Site) : Prop extends Recorded before after where
  transfers_eq : after.transfers = before.transfers

theorem Recorded.refl (site : Site) : Recorded site site := ⟨rfl, fun _ => id, id⟩

theorem Recorded.trans {first second third : Site} (h : Recorded first second)
    (h' : Recorded second third) : Recorded first third where
  bare_eq := h'.bare_eq.trans h.bare_eq
  calm row hrow := h'.calm row (h.calm row hrow)
  configured hdone := h'.configured (h.configured hdone)

theorem Silent.refl (site : Site) : Silent site site := ⟨.refl site, rfl⟩

theorem Silent.trans {first second third : Site} (h : Silent first second)
    (h' : Silent second third) : Silent first third :=
  ⟨h.toRecorded.trans h'.toRecorded, h'.transfers_eq.trans h.transfers_eq⟩

instance : IsPreorder Site Recorded where
  refl := Recorded.refl
  trans _ _ _ := Recorded.trans

instance : IsPreorder Site Silent where
  refl := Silent.refl
  trans _ _ _ := Silent.trans

namespace Recorded

variable {before after : Site} (h : Recorded before after)

include h

/-- What can be seen without the records is the same. -/
theorem view_eq {γ : Type} (view : Site → γ) (hview : ∀ site, view site.bare = view site) :
    view after = view before := by
  rw [← hview after, ← hview before, h.bare_eq]

theorem disk_eq : after.disk = before.disk := h.view_eq Site.disk fun _ => rfl

theorem past_eq : after.past = before.past := h.view_eq Site.past fun _ => rfl

theorem cloud_eq : after.cloud = before.cloud := h.view_eq Site.cloud fun _ => rfl

theorem serials_eq : after.serials = before.serials := h.view_eq Site.serials fun _ => rfl

theorem environment_eq : after.environment = before.environment :=
  h.view_eq Site.environment fun _ => rfl

theorem lastTemporary_eq : after.lastTemporary = before.lastTemporary :=
  h.view_eq Site.lastTemporary fun _ => rfl

theorem lacksTelemetry_eq : after.lacksTelemetry = before.lacksTelemetry :=
  h.view_eq Site.lacksTelemetry fun _ => rfl

theorem hasExporters_eq : after.hasExporters = before.hasExporters :=
  h.view_eq Site.hasExporters fun _ => rfl

theorem digestFlaw?_eq : after.digestFlaw? = before.digestFlaw? :=
  h.view_eq Site.digestFlaw? fun _ => rfl

theorem nesting_eq : after.nesting = before.nesting := h.view_eq Site.nesting fun _ => rfl

/-- The records do not depend on the disk. -/
theorem withDisk (disk : Disk) : Recorded (before.withDisk disk) (after.withDisk disk) where
  bare_eq := congrArg (fun site : Site => site.withDisk disk) h.bare_eq
  calm := h.calm
  configured := h.configured

/-- A store that answers goes on answering. -/
theorem answers {kind : Kind} {bucket : Text} (hanswers : before.Answers kind bucket) :
    after.Answers kind bucket :=
  fun call hcall => h.calm _ (hanswers call hcall)

end Recorded

theorem Silent.withDisk {before after : Site} (h : Silent before after) (disk : Disk) :
    Silent (before.withDisk disk) (after.withDisk disk) :=
  ⟨h.toRecorded.withDisk disk, h.transfers_eq⟩

end Site

/-! ## Actions that keep a relation -/

namespace Action

variable {α β : Type}

/-- The site that an action leaves, failed or not. -/
def after (action : Action α) (site : Site) : Site :=
  match action site with
  | .ok _ site' => site'
  | .error _ site' => site'

theorem after_ok {action : Action α} {site site' : Site} {value : α}
    (h : action site = .ok value site') : after action site = site' := by
  simp only [after, h]

theorem after_error {action : Action α} {site site' : Site} {failure : Failure}
    (h : action site = .error failure site') : after action site = site' := by
  simp only [after, h]

/-- After an action that ends well it is the next one that leaves the site. -/
theorem after_bind_ok {action : Action α} {next : α → Action β} {site site' : Site} {value : α}
    (h : action site = .ok value site') :
    after (action >>= next) site = after (next value) site' := by
  simp only [after, bind_ok h]

/-- After an action that fails it is the recovery that leaves the site. -/
theorem after_recover_error {action : Action α} {handler : Failure → Action α} {site site' : Site}
    {failure : Failure} (h : action site = .error failure site') :
    after (recover action handler) site = after (handler failure) site' := by
  simp only [after, recover_error h]

/-- Every site is related to the one that the action leaves. -/
def Keeps (R : Site → Site → Prop) (action : Action α) : Prop :=
  ∀ site, R site (after action site)

section Composition

variable {R : Site → Site → Prop}

theorem Keeps.ok {action : Action α} (h : Keeps R action) {site site' : Site} {value : α}
    (hrun : action site = .ok value site') : R site site' := after_ok hrun ▸ h site

theorem Keeps.error {action : Action α} (h : Keeps R action) {site site' : Site}
    {failure : Failure} (hrun : action site = .error failure site') : R site site' :=
  after_error hrun ▸ h site

theorem keeps_modify {change : Site → Site} (h : ∀ site, R site (change site)) :
    Keeps R (modify change : Action Unit) := h

theorem keeps_outcome {action : Action α} (h : Keeps R action) : Keeps R (outcome action) := by
  intro site
  cases hrun : action site with
  | ok value site' => simpa [after, outcome, hrun] using h.ok hrun
  | error failure site' => simpa [after, outcome, hrun] using h.error hrun

theorem keeps_ite {condition : Prop} [Decidable condition] {action other : Action α}
    (h : Keeps R action) (hother : Keeps R other) :
    Keeps R (if condition then action else other) := by
  by_cases hcondition : condition
  · rw [if_pos hcondition]
    exact h
  · rw [if_neg hcondition]
    exact hother

variable [IsPreorder Site R]

theorem keeps_pure (value : α) : Keeps R (pure value : Action α) := fun site => refl site

theorem keeps_throw (failure : Failure) : Keeps R (throw failure : Action α) :=
  fun site => refl site

theorem keeps_get : Keeps R (get : Action Site) := fun site => refl site

theorem keeps_ofRule (rule : Except Fault α) : Keeps R (ofRule rule) := by
  cases rule with
  | ok value => exact keeps_pure value
  | error fault => exact keeps_throw (.fault fault)

theorem keeps_ofCall (result : Except Incident α) : Keeps R (ofCall result) := by
  cases result with
  | ok value => exact keeps_pure value
  | error incident => exact keeps_throw (.incident incident)

theorem keeps_bind {action : Action α} {next : α → Action β} (h : Keeps R action)
    (hnext : ∀ value, Keeps R (next value)) : Keeps R (action >>= next) := by
  intro site
  cases hrun : action site with
  | ok value site' =>
      rw [after_bind_ok hrun]
      exact trans_of R (h.ok hrun) (hnext value site')
  | error failure site' =>
      rw [after_error (bind_error hrun)]
      exact h.error hrun

theorem keeps_recover {action : Action α} {handler : Failure → Action α} (h : Keeps R action)
    (hhandler : ∀ failure, Keeps R (handler failure)) : Keeps R (recover action handler) := by
  intro site
  cases hrun : action site with
  | ok value site' =>
      rw [after_ok (recover_ok hrun)]
      exact h.ok hrun
  | error failure site' =>
      rw [after_recover_error hrun]
      exact trans_of R (h.error hrun) (hhandler failure site')

theorem keeps_wrapping {wrap : Incident → Fault} {action : Action α} (h : Keeps R action) :
    Keeps R (wrapping wrap action) := by
  apply keeps_recover h
  intro failure
  cases failure with
  | incident incident => exact keeps_throw _
  | fault fault => exact keeps_throw _

theorem keeps_during {task : Task} {path : Text} {action : Action α} (h : Keeps R action) :
    Keeps R (during task path action) := keeps_wrapping h

end Composition

/-- A weaker relation is kept as well. -/
theorem Keeps.mono {R S : Site → Site → Prop} {action : Action α} (h : Keeps R action)
    (hweaker : ∀ {before after}, R before after → S before after) : Keeps S action :=
  fun site => hweaker (h site)

/-- What is silent is recorded and changes nothing else. -/
theorem Keeps.recorded {action : Action α} (h : Keeps Site.Silent action) :
    Keeps Site.Recorded action := h.mono Site.Silent.toRecorded

/-- Every call is recorded and changes nothing else. -/
theorem keeps_perform (call : Call) : Keeps Site.Recorded (perform call) := by
  intro site
  cases hstrike : Rule.strike? call.row site.rules with
  | none =>
      rw [after_ok (perform_ok hstrike)]
      exact ⟨rfl, fun _ => id, id⟩
  | some struck =>
      obtain ⟨incident, rules⟩ := struck
      rw [after_error (perform_error hstrike)]
      exact ⟨rfl, fun row hrow => Rule.strike?_eq_none_after hrow hstrike, id⟩

/-- The calls that are recorded after one more. -/
theorem calls_after_perform (call : Call) (site : Site) :
    (after (perform call) site).calls = site.calls ++ [call] := by
  cases hstrike : Rule.strike? call.row site.rules with
  | none => rw [after_ok (perform_ok hstrike)]
  | some struck =>
      obtain ⟨incident, rules⟩ := struck
      rw [after_error (perform_error hstrike)]

/-- A call that transfers nothing is silent. -/
theorem keeps_perform_silent {call : Call} (h : call.isTransfer = false) :
    Keeps Site.Silent (perform call) := fun site =>
  ⟨keeps_perform call site, by
    simp only [Site.transfers, calls_after_perform, List.filter_append]
    simp [h]⟩

theorem keeps_note (severity : Severity) (words : String) :
    Keeps Site.Silent (note severity words) :=
  keeps_modify fun _ => ⟨⟨rfl, fun _ => id, id⟩, rfl⟩

/-! ## Conditions before and after -/

/--
From a site that satisfies a condition the action ends with a value and a site that satisfy
another, or with a failure and a site that satisfy a third.
-/
def Ends (before : Site → Prop) (action : Action α) (after : α → Site → Prop)
    (failed : Site → Prop) : Prop :=
  ∀ site, before site →
    match action site with
    | .ok value site' => after value site'
    | .error _ site' => failed site'

section Ends

variable {before before' : Site → Prop} {action : Action α} {after after' : α → Site → Prop}
  {failed failed' : Site → Prop}

theorem Ends.ok (h : Ends before action after failed) {site site' : Site} {value : α}
    (hbefore : before site) (hrun : action site = .ok value site') : after value site' := by
  have hends := h site hbefore
  rwa [hrun] at hends

theorem Ends.error (h : Ends before action after failed) {site site' : Site} {failure : Failure}
    (hbefore : before site) (hrun : action site = .error failure site') : failed site' := by
  have hends := h site hbefore
  rwa [hrun] at hends

/-- To say how an action ends it is enough to look at its two outcomes. -/
theorem ends_of_cases
    (hok : ∀ {site value site'}, before site → action site = .ok value site' → after value site')
    (herror : ∀ {site failure site'}, before site → action site = .error failure site' →
      failed site') : Ends before action after failed := by
  intro site hbefore
  cases hrun : action site with
  | ok value site' => exact hok hbefore hrun
  | error failure site' => exact herror hbefore hrun

/-- Less may be asked for before, and more may be given after. -/
theorem Ends.mono (h : Ends before action after failed) (hbefore : ∀ site, before' site → before site)
    (hafter : ∀ value site, after value site → after' value site)
    (hfailed : ∀ site, failed site → failed' site) :
    Ends before' action after' failed' :=
  ends_of_cases (fun hsite hrun => hafter _ _ (h.ok (hbefore _ hsite) hrun))
    (fun hsite hrun => hfailed _ (h.error (hbefore _ hsite) hrun))

theorem ends_pure {value : α} (h : ∀ site, before site → after value site) :
    Ends before (pure value) after failed := fun site hsite => h site hsite

theorem ends_throw {failure : Failure} (h : ∀ site, before site → failed site) :
    Ends before (throw failure : Action α) after failed := fun site hsite => h site hsite

/-- What holds after the first action may be used for the second one. -/
theorem Ends.bind {next : α → Action β} {last : β → Site → Prop}
    (h : Ends before action after failed)
    (hnext : ∀ value, Ends (after value) (next value) last failed) :
    Ends before (action >>= next) last failed := by
  intro site hbefore
  cases hrun : action site with
  | ok value site' =>
      rw [bind_ok hrun]
      exact hnext value site' (h.ok hbefore hrun)
  | error failure site' =>
      rw [bind_error hrun]
      exact h.error hbefore hrun

/-- What holds after a failure may be used for the recovery. -/
theorem Ends.recover {handler : Failure → Action α} {caught : Site → Prop}
    (h : Ends before action after caught)
    (hhandler : ∀ failure, Ends caught (handler failure) after failed) :
    Ends before (recover action handler) after failed := by
  intro site hbefore
  cases hrun : action site with
  | ok value site' =>
      rw [recover_ok hrun]
      exact h.ok hbefore hrun
  | error failure site' =>
      rw [recover_error hrun]
      exact hhandler failure site' (h.error hbefore hrun)

theorem Ends.wrapping {wrap : Incident → Fault} (h : Ends before action after failed) :
    Ends before (wrapping wrap action) after failed := by
  apply h.recover
  intro failure
  cases failure with
  | incident incident => exact ends_throw fun _ => id
  | fault fault => exact ends_throw fun _ => id

theorem Ends.during {task : Task} {path : Text} (h : Ends before action after failed) :
    Ends before (during task path action) after failed := h.wrapping

/-- A condition that a kept relation passes on holds after as it did before. -/
theorem Keeps.ends {R : Site → Site → Prop} (h : Keeps R action) (condition : Site → Prop)
    (hpass : ∀ {site site'}, R site site' → condition site → condition site') :
    Ends condition action (fun _ => condition) condition :=
  ends_of_cases (fun hsite hrun => hpass (h.ok hrun) hsite)
    (fun hsite hrun => hpass (h.error hrun) hsite)

end Ends

end Action

end ArtifactDepot
