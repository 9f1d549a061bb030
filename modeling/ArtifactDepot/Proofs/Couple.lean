import ArtifactDepot.Proofs.Loading

/-!
# Runs of two actions

Two actions are coupled if from related states they end alike: with values that
a relation allows, or with the same failure, and in related states again.  A
comparison may name states in which the first run has gone astray: from there
nothing is said of the two but that no action leads back.  Couplings pass
through every way of composing actions.
-/

namespace ArtifactDepot.Action

/--
How the states of two runs are compared: which of them belong together, and where the first run has
gone astray, so that no more is said of the two.
-/
structure Comparison (σ : Type) where
  Related : σ → σ → Prop
  Astray : σ → Prop
  /-- A run that has gone astray may still be told together with some other one. -/
  partner : ∀ {state}, Astray state → ∃ state', Related state state'

instance {σ : Type} : CoeFun (Comparison σ) fun _ => σ → σ → Prop := ⟨Comparison.Related⟩

/-- A comparison by which no run goes astray. -/
@[coe] def Comparison.strict {σ : Type} (R : σ → σ → Prop) : Comparison σ :=
  ⟨R, fun _ => False, nofun⟩

instance {σ : Type} : Coe (σ → σ → Prop) (Comparison σ) := ⟨Comparison.strict⟩

/-- The state that a run leaves, failed or not. -/
def left {σ α : Type} : EStateM.Result Failure σ α → σ
  | .ok _ state => state
  | .error _ state => state

/-- The run as it would be if it left another state. -/
def leaving {σ α : Type} (state : σ) : EStateM.Result Failure σ α → EStateM.Result Failure σ α
  | .ok value _ => .ok value state
  | .error failure _ => .error failure state

section Sequences

variable {σ α α' β β' : Type}

/--
Two runs end with values that the relation allows, or with the same failure, and in related states.
-/
inductive AlikeBy (V : α → α' → Prop) (R : σ → σ → Prop) :
    EStateM.Result Failure σ α → EStateM.Result Failure σ α' → Prop where
  | ok {value : α} {value' : α'} {state state' : σ} (hvalue : V value value') (h : R state state') :
      AlikeBy V R (.ok value state) (.ok value' state')
  | error {failure : Failure} {state state' : σ} (h : R state state') :
      AlikeBy V R (.error failure state) (.error failure state')

/-- A run has gone astray, with a value that is still related to one. -/
inductive Strayed (V : α → α' → Prop) (R : Comparison σ) : EStateM.Result Failure σ α → Prop where
  | ok {value : α} {value' : α'} {state : σ} (hvalue : V value value') (h : R.Astray state) :
      Strayed V R (.ok value state)
  | error {failure : Failure} {state : σ} (h : R.Astray state) : Strayed V R (.error failure state)

/-- From related states the two actions run alike, unless the first one goes astray, where it
stays. -/
structure Couple (V : α → α' → Prop) (R : Comparison σ) (action : EStateM Failure σ α)
    (action' : EStateM Failure σ α') : Prop where
  astray : ∀ state, R.Astray state → Strayed V R (action state)
  alike : ∀ state state', R state state' →
    Strayed V R (action state) ∨ AlikeBy V R (action state) (action' state')

/-- Where nothing goes astray actions are coupled that run alike. -/
theorem couple_of_alike {V : α → α' → Prop} {S : σ → σ → Prop} {action : EStateM Failure σ α}
    {action' : EStateM Failure σ α'}
    (h : ∀ state state', S state state' → AlikeBy V S (action state) (action' state')) :
    Couple V S action action' :=
  ⟨nofun, fun state state' hstates => Or.inr (h state state' hstates)⟩

theorem Strayed.left {V : α → α' → Prop} {R : Comparison σ} {result : EStateM.Result Failure σ α}
    (h : Strayed V R result) : R.Astray (Action.left result) := by
  cases h with
  | ok _ h => exact h
  | error h => exact h

/-- Where the state that is left has gone astray the run has. -/
theorem AlikeBy.strayed {V : α → α' → Prop} {R : Comparison σ} {result : EStateM.Result Failure σ α}
    {result' : EStateM.Result Failure σ α'} (h : AlikeBy V R result result')
    (hleft : R.Astray (Action.left result)) : Strayed V R result := by
  cases h with
  | ok hvalue _ => exact .ok hvalue hleft
  | error _ => exact .error hleft

/-- A run that has gone astray may as well leave another such state. -/
theorem Strayed.leaving {V : α → α' → Prop} {R : Comparison σ} {result : EStateM.Result Failure σ α}
    (h : Strayed V R result) {state : σ} (hstate : R.Astray state) :
    Strayed V R (Action.leaving state result) := by
  cases h with
  | ok hvalue _ => exact .ok hvalue hstate
  | error _ => exact .error hstate

/-- A run is still alike if it leaves another state that is related to all that the old one was. -/
theorem AlikeBy.leaving {V : α → α' → Prop} {S : σ → σ → Prop}
    {result : EStateM.Result Failure σ α} {result' : EStateM.Result Failure σ α'}
    (h : AlikeBy V S result result') {state : σ}
    (hstate : ∀ state', S (Action.left result) state' → S state state') :
    AlikeBy V S (Action.leaving state result) result' := by
  cases h with
  | ok hvalue hlast => exact .ok hvalue (hstate _ hlast)
  | error hlast => exact .error (hstate _ hlast)

theorem Couple.run {V : α → α' → Prop} {S : σ → σ → Prop} {action : EStateM Failure σ α}
    {action' : EStateM Failure σ α'} (h : Couple V S action action') {state state' : σ}
    (hstates : S state state') : AlikeBy V S (action state) (action' state') :=
  (h.alike state state' hstates).resolve_left fun hstrayed => hstrayed.left

variable {V : α → α' → Prop} {W : β → β' → Prop} {R : Comparison σ}

theorem couple_pure {value : α} {value' : α'} (h : V value value') :
    Couple V R (pure value : EStateM Failure σ α) (pure value') where
  astray _ hstate := .ok h hstate
  alike _ _ hstates := Or.inr (.ok h hstates)

theorem couple_throw (failure : Failure) :
    Couple V R (throw failure : EStateM Failure σ α) (throw failure) where
  astray _ hstate := .error hstate
  alike _ _ hstates := Or.inr (.error hstates)

theorem couple_get : Couple R R (get : EStateM Failure σ σ) get where
  astray _ hstate := (R.partner hstate).elim fun _ hstates => .ok hstates hstate
  alike _ _ hstates := Or.inr (.ok hstates hstates)

/-- What values are related by does not matter where a run goes astray. -/
theorem Strayed.mono {V' : α → α' → Prop} {result : EStateM.Result Failure σ α}
    (h : Strayed V R result) (hvalues : ∀ value value', V value value' → V' value value') :
    Strayed V' R result := by
  cases h with
  | ok hvalue h => exact .ok (hvalues _ _ hvalue) h
  | error h => exact .error h

theorem Couple.mono {V' : α → α' → Prop} {action : EStateM Failure σ α}
    {action' : EStateM Failure σ α'} (h : Couple V R action action')
    (hvalues : ∀ value value', V value value' → V' value value') : Couple V' R action action' := by
  refine ⟨fun state hstate => (h.astray state hstate).mono hvalues, fun state state' hstates => ?_⟩
  refine (h.alike state state' hstates).imp (·.mono hvalues) fun halike => ?_
  generalize action state = first at halike ⊢
  generalize action' state' = second at halike ⊢
  cases halike with
  | ok hvalue hlast => exact .ok (hvalues _ _ hvalue) hlast
  | error hlast => exact .error hlast

/-- What follows on a run that has gone astray does not find back. -/
theorem Strayed.bind {action : EStateM Failure σ α} {next : α → EStateM Failure σ β}
    {next' : α' → EStateM Failure σ β'} {state : σ} (h : Strayed V R (action state))
    (hnext : ∀ value value', V value value' → Couple W R (next value) (next' value')) :
    Strayed W R ((action >>= next) state) := by
  change Strayed W R (EStateM.bind action next state)
  unfold EStateM.bind
  generalize action state = first at h
  cases h with
  | ok hvalue hlast => exact (hnext _ _ hvalue).astray _ hlast
  | error hlast => exact .error hlast

/-- After two runs that end alike coupled actions run alike. -/
theorem AlikeBy.bind {action : EStateM Failure σ α} {action' : EStateM Failure σ α'}
    {next : α → EStateM Failure σ β} {next' : α' → EStateM Failure σ β'} {state state' : σ}
    (h : AlikeBy V R (action state) (action' state'))
    (hnext : ∀ value value', V value value' → Couple W R (next value) (next' value')) :
    Strayed W R ((action >>= next) state) ∨
      AlikeBy W R ((action >>= next) state) ((action' >>= next') state') := by
  change Strayed W R (EStateM.bind action next state) ∨
    AlikeBy W R (EStateM.bind action next state) (EStateM.bind action' next' state')
  unfold EStateM.bind
  generalize action state = first at h
  generalize action' state' = second at h
  cases h with
  | ok hvalue hlast => exact (hnext _ _ hvalue).alike _ _ hlast
  | error hlast => exact Or.inr (.error hlast)

theorem couple_bind {action : EStateM Failure σ α} {action' : EStateM Failure σ α'}
    {next : α → EStateM Failure σ β} {next' : α' → EStateM Failure σ β'}
    (h : Couple V R action action')
    (hnext : ∀ value value', V value value' → Couple W R (next value) (next' value')) :
    Couple W R (action >>= next) (action' >>= next') := by
  refine ⟨fun state hstate => (h.astray state hstate).bind hnext, fun state state' hstates => ?_⟩
  rcases h.alike state state' hstates with hstrayed | halike
  · exact Or.inl (hstrayed.bind hnext)
  · exact halike.bind hnext

/-- A run that is astray and has a value that is equal to one is merely astray. -/
theorem strayed_eq_iff {result : EStateM.Result Failure σ α} :
    Strayed Eq R result ↔ R.Astray (left result) := by
  refine ⟨Strayed.left, fun h => ?_⟩
  cases result with
  | ok value state => exact .ok rfl h
  | error failure state => exact .error h

theorem couple_ite {condition : Prop} [Decidable condition] {action other : EStateM Failure σ α}
    {action' other' : EStateM Failure σ α'} (h : Couple V R action action')
    (hother : Couple V R other other') :
    Couple V R (if condition then action else other) (if condition then action' else other') := by
  by_cases hcondition : condition
  · rw [if_pos hcondition, if_pos hcondition]
    exact h
  · rw [if_neg hcondition, if_neg hcondition]
    exact hother

end Sequences

variable {α α' β β' : Type} {V : α → α' → Prop} {W : β → β' → Prop} {R : Comparison Site}

theorem left_eq_after (action : Action α) (site : Site) :
    left (action site) = after action site := by
  unfold after
  cases action site with
  | ok value last => rfl
  | error failure last => rfl

theorem couple_recover {action : Action α} {action' : Action α'} {handler : Failure → Action α}
    {handler' : Failure → Action α'} (h : Couple V R action action')
    (hhandler : ∀ failure, Couple V R (handler failure) (handler' failure)) :
    Couple V R (recover action handler) (recover action' handler') := by
  have hastray (site : Site) (hfirst : Strayed V R (action site)) :
      Strayed V R (recover action handler site) := by
    unfold recover
    generalize action site = first at hfirst
    cases hfirst with
    | ok hvalue hlast => exact .ok hvalue hlast
    | error hlast => exact (hhandler _).astray _ hlast
  refine ⟨fun site hsite => hastray site (h.astray site hsite), fun site site' hsites => ?_⟩
  rcases h.alike site site' hsites with hfirst | halike
  · exact Or.inl (hastray site hfirst)
  · unfold recover
    generalize action site = first at halike
    generalize action' site' = second at halike
    cases halike with
    | ok hvalue hlast => exact Or.inr (.ok hvalue hlast)
    | error hlast => exact (hhandler _).alike _ _ hlast

/-- Outcomes are related as the values are, and failures only to themselves. -/
inductive SameOutcome (V : α → α' → Prop) : Except Failure α → Except Failure α' → Prop where
  | ok {value : α} {value' : α'} (h : V value value') : SameOutcome V (.ok value) (.ok value')
  | error (failure : Failure) : SameOutcome V (.error failure) (.error failure)

theorem couple_outcome {action : Action α} {action' : Action α'} (h : Couple V R action action') :
    Couple (SameOutcome V) R (outcome action) (outcome action') := by
  have hastray (site : Site) (hfirst : Strayed V R (action site)) :
      Strayed (SameOutcome V) R (outcome action site) := by
    unfold outcome
    generalize action site = first at hfirst
    cases hfirst with
    | ok hvalue hlast => exact .ok (.ok hvalue) hlast
    | error hlast => exact .ok (.error _) hlast
  refine ⟨fun site hsite => hastray site (h.astray site hsite), fun site site' hsites => ?_⟩
  refine (h.alike site site' hsites).imp (hastray site) fun halike => ?_
  unfold outcome
  generalize action site = first at halike
  generalize action' site' = second at halike
  cases halike with
  | ok hvalue hlast => exact .ok (.ok hvalue) hlast
  | error hlast => exact .ok (.error _) hlast

theorem discard_eq (action : Action α) : discard action = action >>= fun _ => pure () := by
  funext site
  cases hrun : action site with
  | ok value site' => rw [discard_ok hrun, bind_ok hrun]; rfl
  | error failure site' => rw [discard_error hrun, bind_error hrun]

theorem couple_discard {action : Action α} {action' : Action α'} (h : Couple V R action action') :
    Couple Eq R (discard action) (discard action') := by
  rw [discard_eq, discard_eq]
  exact couple_bind h fun _ _ _ => couple_pure rfl

theorem couple_wrapping {wrap : Incident → Fault} {action : Action α} {action' : Action α'}
    (h : Couple V R action action') :
    Couple V R (wrapping wrap action) (wrapping wrap action') := by
  apply couple_recover h
  intro failure
  cases failure with
  | incident incident => exact couple_throw _
  | fault fault => exact couple_throw _

end ArtifactDepot.Action
