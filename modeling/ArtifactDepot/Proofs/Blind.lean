import ArtifactDepot.Proofs.Couple

/-!
# What actions do not see

Two runs of one action from related sites end alike if the action is blind to
what the comparison lets differ: with the same value or the same failure, and on
related sites again.  So a blind action is one that is coupled with itself, with
equal values, and blindness passes through every way of composing actions.
The differences meant here are in the rules and in the log records: `Unseen`
says what a relation has to keep so that no operation tells them.
-/

namespace ArtifactDepot

open ArtifactDepot.Action

/-! ## Clients in calls -/

namespace Call

/-- The client that the call builds if it is answered. -/
def opened? : Call → Option (Kind × Nat)
  | .openGcsClient client _ => some (.gcs, client)
  | .openS3Client client _ => some (.s3, client)
  | .openAzureClient client _ _ => some (.azure, client)
  | _ => none

/-- Is it a call by which a client, or a scripted backend, is built? -/
def isBuilding : Call → Bool
  | .openGcsClient .. | .openS3Session _ | .openS3Client .. | .openAzureClient ..
  | .buildBackend .. => true
  | _ => false

/-- The client that the call asks to close. -/
def closed? : Call → Option (Kind × Nat)
  | .closeClient kind client => some (kind, client)
  | _ => none

/-- What builds a client closes none. -/
theorem closed?_of_isBuilding {call : Call} (h : call.isBuilding = true) : call.closed? = none := by
  cases call with
  | closeClient kind client => cases h
  | _ => rfl

end Call

/-! ## Sites under other rules -/

namespace Site

/-- The site with other rules and another log. -/
def under (site : Site) (rules : List Rule) (notices : List Notice) : Site :=
  { site with rules, notices }

/--
Nothing was asked for, pools hold what they held, no number was given twice, and the tables of all
keyrings stay.
-/
structure Leads (before after : Site) : Prop where
  calls_eq : after.calls = before.calls
  holdings_eq : after.holdings = before.holdings
  next_le : before.serials.next ≤ after.serials.next
  tables_eq : ∀ number, (after.keyring number).tables = (before.keyring number).tables

theorem Leads.refl (site : Site) : Leads site site := ⟨rfl, rfl, Nat.le_refl _, fun _ => rfl⟩

end Site

namespace Action

section Sequences

variable {σ α β : Type}

/-- Two runs end with the same value, or with the same failure, in related states. -/
inductive Alike (R : σ → σ → Prop) :
    EStateM.Result Failure σ α → EStateM.Result Failure σ α → Prop where
  | ok {value : α} {state state' : σ} (h : R state state') :
      Alike R (.ok value state) (.ok value state')
  | error {failure : Failure} {state state' : σ} (h : R state state') :
      Alike R (.error failure state) (.error failure state')

/-- Runs are alike if their values are related by equality. -/
theorem alikeBy_eq_iff {S : σ → σ → Prop} {first second : EStateM.Result Failure σ α} :
    AlikeBy Eq S first second ↔ Alike S first second := by
  constructor
  · intro h
    cases h with
    | ok hvalue hlast =>
        subst hvalue
        exact .ok hlast
    | error hlast => exact .error hlast
  · intro h
    cases h with
    | ok hlast => exact .ok rfl hlast
    | error hlast => exact .error hlast

/-- From related states the action runs alike, unless its first run goes astray, where it stays. -/
def Blind (R : Comparison σ) (action : EStateM Failure σ α) : Prop := Couple Eq R action action

theorem Blind.couple {R : Comparison σ} {action : EStateM Failure σ α} (h : Blind R action) :
    Couple Eq R action action := h

theorem Couple.blind {R : Comparison σ} {action : EStateM Failure σ α}
    (h : Couple Eq R action action) : Blind R action := h

theorem Blind.astray {R : Comparison σ} {action : EStateM Failure σ α} (h : Blind R action)
    {state : σ} (hstate : R.Astray state) : R.Astray (left (action state)) :=
  (h.couple.astray state hstate).left

theorem Blind.alike {R : Comparison σ} {action : EStateM Failure σ α} (h : Blind R action)
    {state state' : σ} (hstates : R state state') :
    R.Astray (left (action state)) ∨ Alike R (action state) (action state') :=
  (h.couple.alike state state' hstates).imp Strayed.left alikeBy_eq_iff.1

theorem Blind.of {R : Comparison σ} {action : EStateM Failure σ α}
    (hastray : ∀ state, R.Astray state → R.Astray (left (action state)))
    (halike : ∀ state state', R state state' →
      R.Astray (left (action state)) ∨ Alike R (action state) (action state')) :
    Blind R action where
  astray state hstate := strayed_eq_iff.2 (hastray state hstate)
  alike state state' hstates := (halike state state' hstates).imp strayed_eq_iff.2 alikeBy_eq_iff.2

/-- Where nothing goes astray actions are blind that run alike. -/
theorem blind_of_alike {S : σ → σ → Prop} {action : EStateM Failure σ α}
    (h : ∀ state state', S state state' → Alike S (action state) (action state')) :
    Blind S action :=
  couple_of_alike fun state state' hstates => alikeBy_eq_iff.2 (h state state' hstates)

theorem Blind.run {S : σ → σ → Prop} {action : EStateM Failure σ α} (h : Blind S action)
    {state state' : σ} (hstates : S state state') : Alike S (action state) (action state') :=
  alikeBy_eq_iff.1 (h.couple.run hstates)

variable {R : Comparison σ}

theorem blind_pure (value : α) : Blind R (pure value : EStateM Failure σ α) := couple_pure rfl

theorem blind_throw (failure : Failure) : Blind R (throw failure : EStateM Failure σ α) :=
  couple_throw failure

/-- After a blind action coupled ones follow on one value. -/
theorem Blind.couple_bind {β' : Type} {W : β → β' → Prop} {action : EStateM Failure σ α}
    {next : α → EStateM Failure σ β} {next' : α → EStateM Failure σ β'} (h : Blind R action)
    (hnext : ∀ value, Couple W R (next value) (next' value)) :
    Couple W R (action >>= next) (action >>= next') := by
  refine Action.couple_bind h.couple ?_
  rintro value _ rfl
  exact hnext value

theorem blind_bind {action : EStateM Failure σ α} {next : α → EStateM Failure σ β}
    (h : Blind R action) (hnext : ∀ value, Blind R (next value)) : Blind R (action >>= next) :=
  h.couple_bind fun value => (hnext value).couple

/-- After two runs that end alike a blind action runs alike, where nothing goes astray. -/
theorem Alike.bind {S : σ → σ → Prop} {action : EStateM Failure σ α}
    {next : α → EStateM Failure σ β} {state state' : σ}
    (h : Alike S (action state) (action state'))
    (hnext : ∀ value, Blind S (next value)) :
    Alike S ((action >>= next) state) ((action >>= next) state') := by
  have hcoupled : ∀ value value' : α, value = value' →
      Couple Eq (S : Comparison σ) (next value) (next value') := by
    rintro value _ rfl
    exact (hnext value).couple
  have hlike : AlikeBy Eq (Comparison.strict S) (action state) (action state') :=
    alikeBy_eq_iff.2 h
  exact alikeBy_eq_iff.1 ((hlike.bind hcoupled).resolve_left fun hstrayed => hstrayed.left)

theorem blind_ite {condition : Prop} [Decidable condition] {action other : EStateM Failure σ α}
    (h : Blind R action) (hother : Blind R other) :
    Blind R (if condition then action else other) := couple_ite h.couple hother.couple

end Sequences

variable {α : Type} {R : Comparison Site}

/-! ## Composition -/

theorem blind_ofRule (rule : Except Fault α) : Blind R (ofRule rule) := by
  cases rule with
  | ok value => exact blind_pure value
  | error fault => exact blind_throw (.fault fault)

theorem blind_ofCall (result : Except Incident α) : Blind R (ofCall result) := by
  cases result with
  | ok value => exact blind_pure value
  | error incident => exact blind_throw (.incident incident)

theorem blind_recover {action : Action α} {handler : Failure → Action α} (h : Blind R action)
    (hhandler : ∀ failure, Blind R (handler failure)) : Blind R (recover action handler) :=
  couple_recover h.couple fun failure => (hhandler failure).couple

theorem blind_outcome {action : Action α} (h : Blind R action) : Blind R (outcome action) := by
  refine (couple_outcome h.couple).mono fun _ _ hresult => ?_
  cases hresult with
  | ok hvalue => rw [hvalue]
  | error failure => rfl

theorem blind_wrapping {wrap : Incident → Fault} {action : Action α} (h : Blind R action) :
    Blind R (wrapping wrap action) := couple_wrapping h.couple

theorem blind_during {task : Task} {path : Text} {action : Action α} (h : Blind R action) :
    Blind R (during task path action) := blind_wrapping h

theorem blind_discard {action : Action α} (h : Blind R action) : Blind R (discard action) :=
  couple_discard h.couple

theorem blind_foldlM {σ : Type} {step : σ → α → Action σ}
    (h : ∀ state value, Blind R (step state value)) (values : List α) (state : σ) :
    Blind R (values.foldlM step state) := by
  induction values generalizing state with
  | nil => exact blind_pure _
  | cons value values ih => exact blind_bind (h state value) ih

theorem blind_filterM {choose : α → Action Bool} (h : ∀ value, Blind R (choose value))
    (values : List α) : Blind R (values.filterM choose) := by
  have haux (chosen : List α) : Blind R (values.filterAuxM choose chosen) := by
    induction values generalizing chosen with
    | nil => exact blind_pure _
    | cons value values ih => exact blind_bind (h value) fun _ => ih _
  exact blind_bind (haux []) fun _ => blind_pure _

theorem blind_forM {body : α → Action Unit} (h : ∀ value, Blind R (body value))
    (values : List α) : Blind R (values.forM body) := by
  induction values with
  | nil => exact blind_pure _
  | cons value values ih => exact blind_bind (h value) fun _ => ih

/-! ## Differences that no operation sees -/

/-- The relation lets rules and logs differ in a way that only building and closing clients tell. -/
structure Unseen (R : Site → Site → Prop) : Prop where
  same : ∀ {site site'}, R site site' → site' = site.under site'.rules site'.notices
  become : ∀ {site site' next}, R site site' → Site.Leads site next →
    R (next.under site.rules site.notices) (next.under site'.rules site'.notices)
  perform : ∀ {call : Call}, call.isBuilding = false → call.closed? = none → Blind R (perform call)
  note : ∀ severity words, Blind R (note severity words)

/-- Two sites are one, and it is related to the first one. -/
def Pursued (K : Site → Site → Prop) (start site site' : Site) : Prop := site = site' ∧ K start site

variable {K : Site → Site → Prop} [IsPreorder Site K]

/-- What keeps a relation is blind where it is pursued. -/
theorem Keeps.blind_pursued {action : Action α} (h : Keeps K action) (start : Site) :
    Blind (Pursued K start) action := by
  refine blind_of_alike ?_
  rintro site _ ⟨rfl, hsite⟩
  cases hrun : action site with
  | ok value last => exact .ok ⟨rfl, trans_of K hsite (h.ok hrun)⟩
  | error failure last => exact .error ⟨rfl, trans_of K hsite (h.error hrun)⟩

/-- Of a single run, too, nothing is seen but such changes and calls that build or close nothing. -/
theorem unseen_pursued
    (hbecome : ∀ {site next : Site} notices, site.Leads next →
      K site (next.under site.rules notices))
    (hperform : ∀ {call : Call}, call.isBuilding = false → call.closed? = none →
      Keeps K (perform call)) (start : Site) : Unseen (Pursued K start) where
  same := by
    rintro site _ ⟨rfl, -⟩
    rfl
  become := by
    rintro site _ next ⟨rfl, hsite⟩ hnext
    exact ⟨rfl, trans_of K hsite (hbecome _ hnext)⟩
  perform hbuilding hclosed := (hperform hbuilding hclosed).blind_pursued start
  note severity words := by
    refine blind_of_alike ?_
    rintro site _ ⟨rfl, hsite⟩
    have hnoted := hbecome (site.notices ++ [⟨severity, words⟩]) (.refl site)
    exact .ok ⟨rfl, trans_of K hsite hnoted⟩

theorem keeps_of_pursued {action : Action α} (h : ∀ start, Blind (Pursued K start) action) :
    Keeps K action := by
  intro site
  have halike := (h site).run ⟨rfl, refl_of K site⟩
  unfold after
  generalize action site = result at halike
  cases halike with
  | ok hlast => exact hlast.2
  | error hlast => exact hlast.2

/-- What is blind to every difference that is not seen keeps every relation of this kind. -/
theorem keeps_of_unseen
    (hbecome : ∀ {site next : Site} notices, site.Leads next →
      K site (next.under site.rules notices))
    (hperform : ∀ {call : Call}, call.isBuilding = false → call.closed? = none →
      Keeps K (perform call))
    {action : Action α} (h : ∀ {R : Site → Site → Prop}, Unseen R → Blind R action) :
    Keeps K action :=
  keeps_of_pursued fun start => h (unseen_pursued hbecome hperform start)

end Action

end ArtifactDepot
