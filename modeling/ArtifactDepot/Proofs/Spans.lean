import ArtifactDepot.Proofs.Loading
import ArtifactDepot.Proofs.Traced

/-!
# Operations and their spans

A traced operation begins on a site that tracing has prepared, with a provider
if it gets a span, and its end is handed to the sink of that provider
(`Trace.traced_some`).  `Logs` reads off an action which traced operations end
in a run of it, one after the other, whether they get spans or not.
-/

namespace ArtifactDepot

open ArtifactDepot.Action

/-! ## Ended operations -/

/-- A traced operation that has ended. -/
structure Ended where
  operation : Operation
  kind : Kind
  /-- The digest of its path, if the path has one. -/
  digest : Option String
  /-- The name of the span around it, if there is one. -/
  parent : Option String
  /-- Its failure, if it failed, and the stack trace that is written for it. -/
  failure : Option (Failure × String)

namespace Ended

/-- The span that is handed to a sink for it. -/
def span (ended : Ended) : Span :=
  match ended.failure with
  | none => .ofSuccess ended.operation ended.kind ended.digest ended.parent
  | some (failure, stackTrace) =>
      .ofFailure ended.operation ended.kind ended.digest ended.parent failure stackTrace

/-- An operation that began at a site and came to a result. -/
def of {α : Type} (operation : Operation) (kind : Kind) (path : Text) (start : Site)
    (result : Except Failure α) : Ended where
  operation := operation
  kind := kind
  digest := Trace.digest? start path
  parent := start.tracing.active[1]?
  failure := match result with
    | .ok _ => none
    | .error failure => some (failure, start.tracing.stackTrace operation kind path failure)

end Ended

namespace Trace

variable {α : Type} {action : Action α} {operation : Operation} {kind : Kind} {path : Text}
  {site start : Site}

/-! ## Where an operation begins -/

/-- An operation as it runs after the digest of its path, if tracing needs one. -/
def entered (path : Text) (action : Action α) : Action α := do
  if isOff (← get) then action else digested path action

theorem entered_off (h : isOff site = true) : entered path action site = action site :=
  congrFun (if_pos h) site

theorem entered_on (hon : isOff site = false) :
    entered path action site = digested path action site :=
  congrFun (if_neg (Bool.eq_false_iff.1 hon)) site

theorem entered_ok (h : flaw? site path = none) : entered path action site = action site := by
  cases hoff : isOff site with
  | true => exact entered_off hoff
  | false => exact (entered_on hoff).trans (digested_ok ((flaw?_on hoff path).symm.trans h))

theorem entered_error {words : String} (h : flaw? site path = some words) :
    entered path action site =
      .error (.incident (.unencodable words)) (after (refuse path) site) := by
  cases hoff : isOff site with
  | true => cases (if_pos hoff).symm.trans h
  | false => exact (entered_on hoff).trans (digested_error ((flaw?_on hoff path).symm.trans h))

theorem after_entered (path : Text) (action : Action α) (site : Site) :
    after (entered path action) site =
      if (flaw? site path).isSome then after (refuse path) site else after action site := by
  cases hflaw : flaw? site path with
  | none =>
      rw [Option.isSome_none, if_neg Bool.false_ne_true]
      unfold after
      rw [entered_ok hflaw]
  | some words => rw [after_error (entered_error hflaw), Option.isSome_some, if_pos rfl]

/-- Tracing that refuses an operation does nothing else. -/
theorem keeps_entered {R : Site → Site → Prop} (hrefuse : Keeps R (refuse path))
    (h : Keeps R action) : Keeps R (entered path action) := by
  intro site
  rw [after_entered]
  split
  · exact hrefuse site
  · exact h site

/--
The site on which a traced operation begins, and the provider of its span if it gets one.  It does
not begin if the tracing that is demanded cannot be set up.
-/
def begin? (operation : Operation) (site : Site) : Option (Option Provider × Site) :=
  if isOff site then some (none, site)
  else
    match prepare site with
    | .error _ _ => none
    | .ok _ prepared =>
        match prepared.tracing.provider with
        | none => some (none, prepared)
        | some provider =>
            some (some provider,
              { prepared with tracing := enter prepared.tracing operation.spanName })

theorem begin?_off (h : isOff site = true) : begin? operation site = some (none, site) := if_pos h

theorem begin?_bare {prepared : Site} (hon : isOff site = false)
    (hprepare : prepare site = .ok () prepared) (hprovider : prepared.tracing.provider = none) :
    begin? operation site = some (none, prepared) := by
  simp only [begin?, hon, hprepare, hprovider, Bool.false_eq_true, if_false]

theorem begin?_within {prepared : Site} {provider : Provider} (hon : isOff site = false)
    (hprepare : prepare site = .ok () prepared)
    (hprovider : prepared.tracing.provider = some provider) :
    begin? operation site = some (some provider,
      { prepared with tracing := enter prepared.tracing operation.spanName }) := by
  simp only [begin?, hon, hprepare, hprovider, Bool.false_eq_true, if_false]

/-- The site with the end of an operation handed to the sink of its provider, if it has one. -/
def handOver (provider : Option Provider) (ended : Ended) (site : Site) : Site :=
  match provider with
  | none => site
  | some provider => { site with tracing := leave site.tracing provider.sink ended.span }

theorem within_run (provider : Provider) (prepared : Site) (hstart : start =
      { prepared with tracing := enter prepared.tracing operation.spanName }) :
    (within provider operation kind path action).result prepared =
        (digested path action).result start ∧
      after (within provider operation kind path action) prepared =
        handOver (some provider)
          (.of operation kind path start ((digested path action).result start))
          (after (digested path action) start) := by
  subst hstart
  have hparent : (enter prepared.tracing operation.spanName).active[1]? =
      prepared.tracing.active.head? := List.head?_eq_getElem?.symm
  cases hrun : digested path action
      { prepared with tracing := enter prepared.tracing operation.spanName } with
  | ok value last =>
      have hwithin : within provider operation kind path action prepared = _ :=
        within_ok provider hrun
      rw [result_of_ok hrun, result_of_ok hwithin, after_ok hrun, after_ok hwithin, handOver,
        Ended.of, hparent]
      exact ⟨rfl, rfl⟩
  | error failure last =>
      have hwithin : within provider operation kind path action prepared = _ :=
        within_error provider hrun
      rw [result_of_error hrun, result_of_error hwithin, after_error hrun, after_error hwithin,
        handOver, Ended.of, hparent]
      exact ⟨rfl, rfl⟩

/-- An operation ends as what it does, and then its end is handed over. -/
theorem traced_some (kind : Kind) (path : Text) (action : Action α) {provider : Option Provider}
    (h : begin? operation site = some (provider, start)) :
    (traced operation kind path action).result site = (entered path action).result start ∧
      after (traced operation kind path action) site =
        handOver provider (.of operation kind path start ((entered path action).result start))
          (after (entered path action) start) := by
  rw [Action.result, after]
  unfold begin? at h
  cases hoff : isOff site with
  | true =>
      rw [if_pos hoff] at h
      cases h
      rw [traced_off hoff, Action.result, after, entered_off hoff]
      exact ⟨rfl, rfl⟩
  | false =>
      rw [if_neg (Bool.eq_false_iff.1 hoff)] at h
      split at h
      · cases h
      · next _ prepared hprepare =>
          have hon : isOff prepared = false :=
            (isOff_recorded ((keeps_prepare writes_silent).ok hprepare).toRecorded).trans hoff
          split at h
          · next hprovider =>
              cases h
              rw [traced_bare hoff hprepare hprovider, Action.result, after, entered_on hon]
              exact ⟨rfl, rfl⟩
          · next provider hprovider =>
              cases h
              have hentered : entered path action { prepared with
                  tracing := enter prepared.tracing operation.spanName } =
                    digested path action _ := entered_on hon
              rw [traced_within hoff hprepare hprovider, Action.result, after, hentered]
              exact within_run provider prepared rfl

/-- An operation that does not begin fails for want of the tracing that is demanded. -/
theorem traced_none (kind : Kind) (path : Text) (action : Action α)
    (h : begin? operation site = none) :
    ∃ reason site', traced operation kind path action site =
        .error (.incident (.tracingRequired reason)) site' ∧
      prepare site = .error (.incident (.tracingRequired reason)) site' := by
  unfold begin? at h
  cases hoff : isOff site with
  | true =>
      rw [if_pos hoff] at h
      cases h
  | false =>
      rw [if_neg (Bool.eq_false_iff.1 hoff)] at h
      split at h
      · next failure site' hprepare =>
          obtain ⟨reason, rfl⟩ := prepare_error hprepare
          exact ⟨reason, site', traced_stopped hoff hprepare, hprepare⟩
      · split at h
        · cases h
        · cases h

end Trace

/-! ## Which operations a run ends -/

/-- What tracing goes by is the same. -/
def Site.SameTracing (before after : Site) : Prop :=
  after.environment = before.environment ∧ after.lacksTelemetry = before.lacksTelemetry ∧
    after.tracing = before.tracing

instance : IsPreorder Site Site.SameTracing where
  refl _ := ⟨rfl, rfl, rfl⟩
  trans _ _ _ h h' := ⟨h'.1.trans h.1, h'.2.1.trans h.2.1, h'.2.2.trans h.2.2⟩

/-- Nor does tracing go by what it refused. -/
theorem Trace.sameTracing_refuse (path : Text) : Keeps Site.SameTracing (refuse path) :=
  fun _ => ⟨rfl, rfl, rfl⟩

/-- What is logged after the value of an action, and after its failure. -/
def Action.logAfter {α : Type} (action : Action α) (later : α → Site → List Ended)
    (handled : Failure → Site → List Ended) (site : Site) : List Ended :=
  match action site with
  | .ok value site' => later value site'
  | .error failure site' => handled failure site'

section LogAfter

variable {α : Type} {action : Action α} {later : α → Site → List Ended}
  {handled : Failure → Site → List Ended} {site site' : Site}

theorem Action.logAfter_ok {value : α} (h : action site = .ok value site') :
    action.logAfter later handled site = later value site' := by
  simp only [logAfter, h]

theorem Action.logAfter_error {failure : Failure} (h : action site = .error failure site') :
    action.logAfter later handled site = handled failure site' := by
  simp only [logAfter, h]

end LogAfter

/-- What a traced operation logs: what is logged inside of it, and itself last. -/
def Trace.logOf {α : Type} (operation : Operation) (kind : Kind) (path : Text) (action : Action α)
    (inside : Site → List Ended) (site : Site) : List Ended :=
  match begin? operation site with
  | none => []
  | some (_, start) =>
      inside start ++ [.of operation kind path start ((entered path action).result start)]

/-- A run of the action from a site ends the traced operations that the log lists, in this order. -/
inductive Logs : {α : Type} → Action α → (Site → List Ended) → Prop where
  /-- What leaves alone what tracing goes by ends none. -/
  | quiet {α : Type} {action : Action α} (h : Keeps Site.SameTracing action) :
      Logs action (fun _ => [])
  | bind {α β : Type} {action : Action α} {next : α → Action β} {log : Site → List Ended}
      {later : α → Site → List Ended} (h : Logs action log)
      (hnext : ∀ value, Logs (next value) (later value)) :
      Logs (action >>= next) (fun site => log site ++ action.logAfter later (fun _ _ => []) site)
  | recover {α : Type} {action : Action α} {handler : Failure → Action α}
      {log : Site → List Ended} {handled : Failure → Site → List Ended} (h : Logs action log)
      (hhandler : ∀ failure, Logs (handler failure) (handled failure)) :
      Logs (recover action handler)
        (fun site => log site ++ action.logAfter (fun _ _ => []) handled site)
  /-- An operation that tracing refuses ends none. -/
  | entered {α : Type} {action : Action α} {log : Site → List Ended} (path : Text)
      (h : Logs action log) :
      Logs (Trace.entered path action)
        (fun site => if (Trace.flaw? site path).isSome then [] else log site)
  | traced {α : Type} {action : Action α} {inside : Site → List Ended} (operation : Operation)
      (kind : Kind) (path : Text) (h : Logs (Trace.entered path action) inside) :
      Logs (Trace.traced operation kind path action)
        (Trace.logOf operation kind path action inside)

end ArtifactDepot
