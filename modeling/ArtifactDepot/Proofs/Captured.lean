import ArtifactDepot.Proofs.Followed
import ArtifactDepot.Session.Start

/-!
# Spans in memory

Where spans are to be kept in memory, an operation that is traced while tracing
is switched on adds one span for every traced operation that ended in it
(`Logs.traces`), unless tracing is idle: a configuration has been tried, and
there is no provider.  A session falls idle in one way only, by a configuration
while tracing is switched off, and stays so until tracing is reset or configured
again (`Session.isIdle_after`).
-/

namespace ArtifactDepot

open ArtifactDepot.Action

/-! ## Tracing to memory -/

namespace Trace

/-- A configuration has been tried, and there is no provider. -/
def isIdle (tracing : Trace) : Bool := tracing.configured && tracing.provider.isNone

/-- There is a provider that sends to memory, and the memory, or there is neither. -/
def Matched (tracing : Trace) : Prop :=
  (tracing.provider = none ∧ tracing.memory = none) ∨
    ∃ service spans, tracing.provider = some ⟨service, .memory⟩ ∧ tracing.memory = some spans

/-- Tracing with a provider that sends to memory, which is made if there is none. -/
def armed (tracing : Trace) (service : Text) : Trace :=
  if tracing.memory.isSome then tracing
  else { tracing with configured := true, provider := some ⟨service, .memory⟩, memory := some [] }

variable {tracing : Trace}

theorem Matched.isSome_memory (h : tracing.Matched) :
    tracing.memory.isSome = tracing.provider.isSome := by
  rcases h with ⟨hprovider, hmemory⟩ | ⟨service, spans, hprovider, hmemory⟩
  · rw [hprovider, hmemory]
    rfl
  · rw [hprovider, hmemory]
    rfl

theorem Matched.armed (h : tracing.Matched) (service : Text) : (tracing.armed service).Matched := by
  unfold Trace.armed
  split
  · exact h
  · exact Or.inr ⟨service, [], rfl, rfl⟩

theorem Matched.isSome_provider_armed (h : tracing.Matched) (service : Text) :
    (tracing.armed service).provider.isSome = true := by
  unfold Trace.armed
  split
  · next hmemory => rwa [← h.isSome_memory]
  · rfl

theorem spans_armed (tracing : Trace) (service : Text) :
    (tracing.armed service).spans = tracing.spans := by
  unfold Trace.armed
  split
  · rfl
  · next hmemory =>
      rw [Bool.not_eq_true, Option.isSome_eq_false_iff, Option.isNone_iff_eq_none] at hmemory
      simp only [spans, hmemory]
      rfl

theorem armed_armed (tracing : Trace) (service : Text) :
    (tracing.armed service).armed service = tracing.armed service := by
  by_cases hmemory : tracing.memory.isSome = true
  · rw [Trace.armed, Trace.armed, if_pos hmemory, if_pos hmemory]
  · have harmed : (tracing.armed service).memory.isSome = true := by
      rw [Trace.armed, if_neg hmemory]
      rfl
    rw [Trace.armed, if_pos harmed]

/-- Tracing after a configuration that sends spans to memory. -/
def configuredFor (environment : Environment) (tracing : Trace) : Trace :=
  if isEnabled environment then tracing.armed (serviceName environment)
  else { tracing with configured := true }

/-- Tracing after it has been configured for an operation, unless that has been tried. -/
def preparedFor (environment : Environment) (tracing : Trace) : Trace :=
  if tracing.configured then tracing else tracing.armed (serviceName environment)

end Trace

namespace Site

/-- Spans are to be kept in memory, and they can be. -/
structure Ready (site : Site) : Prop where
  keepsInMemory_eq : Trace.keepsInMemory site.environment = true
  lacksTelemetry_eq : site.lacksTelemetry = false
  matched : site.tracing.Matched

/-- Are spans captured? -/
def captures (site : Site) : Bool :=
  Trace.isEnabled site.environment && !site.tracing.isIdle

variable {site : Site}

/-- A configuration ends well, and it is effective if tracing is switched on. -/
theorem Ready.configure (h : site.Ready) :
    Trace.configure site = .ok (Trace.isEnabled site.environment)
      { site with tracing := Trace.configuredFor site.environment site.tracing } := by
  unfold Trace.configure Trace.configuredFor
  rw [get_bind]
  cases henabled : Trace.isEnabled site.environment with
  | false => rfl
  | true =>
      rw [Bool.not_true, if_neg Bool.false_ne_true, h.keepsInMemory_eq, Bool.and_true, if_pos rfl]
      cases hmemory : site.tracing.memory.isSome with
      | true =>
          rw [Trace.armed, if_pos hmemory]
          rfl
      | false =>
          have hprovider : site.tracing.provider.isSome = false :=
            h.matched.isSome_memory.symm.trans hmemory
          have hinstall : Trace.install
              { site with tracing := { site.tracing with configured := true } } = .ok ()
              { site with tracing := { site.tracing with
                configured := true
                provider := some ⟨Trace.serviceName site.environment, .memory⟩
                memory := some [] } } := by
            unfold Trace.install
            rw [get_bind]
            dsimp only
            rw [h.lacksTelemetry_eq, if_neg Bool.false_ne_true, h.keepsInMemory_eq, if_pos rfl]
            rfl
          rw [if_neg Bool.false_ne_true, hprovider, Bool.and_false, if_neg Bool.false_ne_true,
            Trace.armed, hmemory, if_neg Bool.false_ne_true]
          have hupdate :
              Trace.update (fun tracing => { tracing with configured := true }) site =
                .ok () { site with tracing := { site.tracing with configured := true } } := rfl
          rw [bind_ok hupdate, bind_ok (outcome_of_ok hinstall)]
          rfl

theorem Ready.prepare (h : site.Ready) (henabled : Trace.isEnabled site.environment = true) :
    Trace.prepare site =
      .ok () { site with tracing := Trace.preparedFor site.environment site.tracing } := by
  have hconfigure := h.configure
  rw [Trace.configuredFor, if_pos henabled] at hconfigure
  unfold Trace.prepare Trace.preparedFor
  rw [get_bind]
  cases hconfigured : site.tracing.configured with
  | true => rfl
  | false => exact discard_ok hconfigure

/-- What the spans of later operations depend on has been kept. -/
structure Steady (before after : Site) : Prop where
  environment_eq : after.environment = before.environment
  ready : before.Ready → after.Ready
  isIdle_eq : before.Ready → after.tracing.isIdle = before.tracing.isIdle
  isSome_provider : before.Ready → before.tracing.provider.isSome = true →
    after.tracing.provider.isSome = true

instance : IsPreorder Site Steady where
  refl _ := ⟨rfl, id, fun _ => rfl, fun _ => id⟩
  trans _ _ _ h h' :=
    { environment_eq := h'.environment_eq.trans h.environment_eq
      ready := fun hready => h'.ready (h.ready hready)
      isIdle_eq := fun hready => (h'.isIdle_eq (h.ready hready)).trans (h.isIdle_eq hready)
      isSome_provider := fun hready hprovider =>
        h'.isSome_provider (h.ready hready) (h.isSome_provider hready hprovider) }

theorem steady_of_tracing {tracing : Trace} (hmatched : site.tracing.Matched → tracing.Matched)
    (hidle : site.tracing.Matched → tracing.isIdle = site.tracing.isIdle)
    (hprovider : site.tracing.provider.isSome = true → tracing.provider.isSome = true) :
    Steady site { site with tracing } where
  environment_eq := rfl
  ready h := { h with matched := hmatched h.matched }
  isIdle_eq h := hidle h.matched
  isSome_provider _ := hprovider

end Site

namespace Trace

variable {tracing : Trace}

theorem Matched.leave (h : tracing.Matched) (sink : Sink) (span : Span) :
    (tracing.leave sink span).Matched := by
  rcases h with ⟨hprovider, hmemory⟩ | ⟨service, spans, hprovider, hmemory⟩
  · refine Or.inl ⟨hprovider, ?_⟩
    simp only [Trace.leave, hmemory, Option.map_none, ite_self]
  · by_cases hsink : sink = .memory
    · refine Or.inr ⟨service, spans ++ [span], hprovider, ?_⟩
      simp only [Trace.leave, hmemory, Option.map_some, if_pos hsink]
    · refine Or.inr ⟨service, spans, hprovider, ?_⟩
      simp only [Trace.leave, hmemory, if_neg hsink]

theorem Matched.preparedFor (h : tracing.Matched) (environment : Environment) :
    (preparedFor environment tracing).Matched := by
  unfold Trace.preparedFor
  split
  · exact h
  · exact h.armed _

theorem spans_preparedFor (environment : Environment) (tracing : Trace) :
    (preparedFor environment tracing).spans = tracing.spans := by
  unfold preparedFor
  split
  · rfl
  · exact spans_armed tracing _

/-- Tracing that is ready for an operation is idle if there is no provider. -/
theorem Matched.isIdle_preparedFor (h : tracing.Matched) (environment : Environment) :
    (Trace.preparedFor environment tracing).isIdle =
      (Trace.preparedFor environment tracing).provider.isNone := by
  unfold Trace.preparedFor
  split
  · next hconfigured => rw [isIdle, hconfigured, Bool.true_and]
  · rw [isIdle, ← Option.not_isSome, h.isSome_provider_armed, Bool.not_true, Bool.and_false]

/-- To get ready for an operation leaves tracing as idle as it is. -/
theorem Matched.isIdle_preparedFor_eq (h : tracing.Matched) (environment : Environment) :
    (Trace.preparedFor environment tracing).isIdle = tracing.isIdle := by
  rw [h.isIdle_preparedFor]
  unfold Trace.preparedFor
  cases hconfigured : tracing.configured with
  | true => rw [if_pos rfl, isIdle, hconfigured, Bool.true_and]
  | false =>
      rw [if_neg Bool.false_ne_true, isIdle, hconfigured, Bool.false_and, ← Option.not_isSome,
        h.isSome_provider_armed, Bool.not_true]

theorem Matched.isSome_provider_preparedFor (h : tracing.Matched)
    (hprovider : tracing.provider.isSome = true) (environment : Environment) :
    (Trace.preparedFor environment tracing).provider.isSome = true := by
  unfold Trace.preparedFor
  split
  · exact hprovider
  · exact h.isSome_provider_armed _

theorem follows_steady : Follows Site.Steady where
  same {before after} h := by
    obtain ⟨henvironment, hlibrary, htracing⟩ := h
    refine ⟨henvironment, fun hready => ?_, fun _ => by rw [htracing], fun _ hprovider => ?_⟩
    · exact ⟨henvironment ▸ hready.keepsInMemory_eq, hlibrary ▸ hready.lacksTelemetry_eq,
        htracing ▸ hready.matched⟩
    · rwa [htracing]
  prepare {site} hoff := by
    by_cases hready : site.Ready
    · rw [after_ok (hready.prepare (isOff_eq_false.1 hoff).1)]
      exact Site.steady_of_tracing (fun hmatched => hmatched.preparedFor _)
        (fun hmatched => hmatched.isIdle_preparedFor_eq _)
        fun hprovider => hready.matched.isSome_provider_preparedFor hprovider _
    · have hsilent : Site.Silent site (after prepare site) := keeps_prepare writes_silent site
      exact ⟨hsilent.toRecorded.environment_eq, fun h => absurd h hready,
        fun h => absurd h hready, fun h => absurd h hready⟩
  enter site name := Site.steady_of_tracing id (fun _ => rfl) id
  leave site sink ended :=
    Site.steady_of_tracing (fun hmatched => hmatched.leave sink _) (fun _ => rfl) id

end Trace

/-! ## Spans of operations -/

namespace Site

variable {site : Site}

/-- Tracing is as before, and the ended operations have been captured, if any are. -/
structure Traces (ended : List Ended) (before after : Site) : Prop extends
    Steady before after where
  spans_eq : after.tracing.spans =
    before.tracing.spans ++ if before.captures then ended.map Ended.span else []

theorem Steady.captures_eq {before after : Site} (h : Steady before after) (hready : before.Ready) :
    after.captures = before.captures := by
  rw [captures, captures, h.environment_eq, h.isIdle_eq hready]

theorem Traces.append {first middle last : Site} {ended later : List Ended}
    (h : Traces ended first middle) (h' : Traces later middle last) (hready : first.Ready) :
    Traces (ended ++ later) first last where
  toSteady := trans_of Steady h.toSteady h'.toSteady
  spans_eq := by
    rw [h'.spans_eq, h.spans_eq, h.captures_eq hready, List.append_assoc]
    cases first.captures with
    | true => rw [if_pos rfl, if_pos rfl, if_pos rfl, List.map_append]
    | false => rfl

/-- What is not captured makes no difference. -/
theorem Traces.of_captures_eq_false {before after : Site} {ended other : List Ended}
    (h : Traces ended before after) (hcaptures : before.captures = false) :
    Traces other before after where
  toSteady := h.toSteady
  spans_eq := by
    rw [h.spans_eq, hcaptures]
    rfl

theorem traces_same {before after : Site} (h : SameTracing before after) :
    Traces [] before after where
  toSteady := Trace.follows_steady.same h
  spans_eq := by rw [h.2.2, List.map_nil, ite_self, List.append_nil]

/-- An operation that begins on a site which is ready gets a span if spans are captured. -/
theorem Ready.begins (h : site.Ready) (operation : Operation) :
    (site.captures = false ∧ ∃ start, Trace.begin? operation site = some (none, start) ∧
        Traces [] site start) ∨
      (site.captures = true ∧ ∃ provider start,
        Trace.begin? operation site = some (some provider, start) ∧ provider.sink = .memory ∧
          start.tracing.provider.isSome = true ∧ Traces [] site start) := by
  cases henabled : Trace.isEnabled site.environment with
  | false =>
      have hoff : Trace.isOff site = true := by rw [Trace.isOff, henabled]; rfl
      refine Or.inl ⟨by rw [captures, henabled, Bool.false_and], site, Trace.begin?_off hoff, ?_⟩
      exact traces_same (refl_of SameTracing site)
  | true =>
      have hon : Trace.isOff site = false := Trace.isOff_eq_false.2 ⟨henabled, h.lacksTelemetry_eq⟩
      have hprepare := h.prepare henabled
      have hsteady := Trace.follows_steady.prepare hon
      rw [after_ok hprepare] at hsteady
      have hcaptures : site.captures =
          (Trace.preparedFor site.environment site.tracing).provider.isSome := by
        rw [captures, henabled, Bool.true_and, ← hsteady.isIdle_eq h, h.matched.isIdle_preparedFor,
          Option.not_isNone]
      have hspans : (Trace.preparedFor site.environment site.tracing).spans =
          site.tracing.spans ++ if site.captures then [].map Ended.span else [] := by
        rw [List.map_nil, ite_self, List.append_nil, Trace.spans_preparedFor]
      cases hprovider : (Trace.preparedFor site.environment site.tracing).provider with
      | none =>
          rw [hprovider] at hcaptures
          exact Or.inl ⟨hcaptures, _, Trace.begin?_bare hon hprepare hprovider, hsteady, hspans⟩
      | some provider =>
          rw [hprovider] at hcaptures
          have hentered := trans_of Steady hsteady
            (Trace.follows_steady.enter _ operation.spanName)
          have hsink : provider.sink = .memory := by
            rcases h.matched.preparedFor site.environment with ⟨hnone, -⟩ | ⟨_, _, hsome, -⟩
            · cases hprovider.symm.trans hnone
            · cases hprovider.symm.trans hsome
              rfl
          exact Or.inr ⟨hcaptures, provider, _, Trace.begin?_within hon hprepare hprovider, hsink,
            Option.isSome_iff_exists.2 ⟨provider, hprovider⟩, hentered, hspans⟩

/-- The end of an operation that has a span is captured. -/
theorem Ready.handOver {provider : Provider} (h : site.Ready) (hcaptures : site.captures = true)
    (hprovider : site.tracing.provider.isSome = true) (hsink : provider.sink = .memory)
    (ended : Ended) : Traces [ended] site (Trace.handOver (some provider) ended site) where
  toSteady := Trace.follows_steady.leave site provider.sink ended
  spans_eq := by
    obtain ⟨spans, hmemory⟩ :=
      Option.isSome_iff_exists.1 (h.matched.isSome_memory.trans hprovider)
    simp only [Trace.handOver, Trace.leave, Trace.spans, hmemory, if_pos hsink, hcaptures, if_true]
    rfl

end Site

/-- A run on a site that is ready captures a span for every traced operation that it ends. -/
theorem Logs.traces {α : Type} {action : Action α} {log : Site → List Ended}
    (h : Logs action log) {site : Site} (hready : site.Ready) :
    Site.Traces (log site) site (after action site) := by
  induction h generalizing site with
  | quiet h => exact Site.traces_same (h site)
  | @bind _ _ action next log later h hnext ih ihnext =>
      have hfirst := ih hready
      beta_reduce
      cases hrun : action site with
      | ok value site' =>
          rw [after_ok hrun] at hfirst
          rw [after_bind_ok hrun, logAfter_ok hrun]
          exact hfirst.append (ihnext value (hfirst.ready hready)) hready
      | error failure site' =>
          rw [after_error hrun] at hfirst
          rw [after_error (bind_error hrun), logAfter_error hrun, List.append_nil]
          exact hfirst
  | @recover _ action handler log handled h hhandler ih ihhandler =>
      have hfirst := ih hready
      beta_reduce
      cases hrun : action site with
      | ok value site' =>
          rw [after_ok hrun] at hfirst
          rw [after_ok (recover_ok hrun), logAfter_ok hrun, List.append_nil]
          exact hfirst
      | error failure site' =>
          rw [after_error hrun] at hfirst
          rw [after_recover_error hrun, logAfter_error hrun]
          exact hfirst.append (ihhandler failure (hfirst.ready hready)) hready
  | @entered _ action log path h ih =>
      have hinside := ih hready
      rw [Trace.after_entered]
      beta_reduce
      split
      · exact Site.traces_same (Trace.sameTracing_refuse path site)
      · exact hinside
  | @traced _ action inside operation kind path h ih =>
      rcases hready.begins operation with ⟨hcaptures, start, hbegin, hstart⟩ |
        ⟨hcaptures, provider, start, hbegin, hsink, hprovider, hstart⟩
      · -- It gets no span, and neither does what is inside of it.
        have hinside := hstart.append (ih (hstart.ready hready)) hready
        rw [(Trace.traced_some kind path action hbegin).2]
        exact hinside.of_captures_eq_false hcaptures
      · -- Its own span follows those from inside, and the provider is still there to take it.
        have hinside := ih (hstart.ready hready)
        have hended := hstart.append hinside hready
        have hlast : (after (Trace.entered path action) start).captures = true :=
          (hended.captures_eq hready).trans hcaptures
        have hleft := (hended.ready hready).handOver hlast
          (hinside.isSome_provider (hstart.ready hready) hprovider) hsink
          (.of operation kind path start ((Trace.entered path action).result start))
        rw [(Trace.traced_some kind path action hbegin).2, Trace.logOf, hbegin]
        exact hended.append hleft hready

/-! ## Operations -/

/--
The operation adds the spans of the traced operations that end inside of it, and its own one last,
if spans are captured, and none if they are not.
-/
def Site.AddsSpans {α : Type} (site : Site) (operation : Operation) (kind : Kind) (path : Text)
    (action : Action α) : Prop :=
  ∃ body inside provider start, action = Trace.traced operation kind path body ∧
    Logs (Trace.entered path body) inside ∧ (operation ≠ .localize → inside = fun _ => []) ∧
    Trace.begin? operation site = some (provider, start) ∧
    (after action site).tracing.spans = site.tracing.spans ++
      if site.captures then
        (inside start ++ [Ended.of operation kind path start (action.result site)]).map Ended.span
      else []

theorem Site.Ready.addsSpans {α : Type} {site : Site} {operation : Operation} {kind : Kind}
    {path : Text} {action : Action α} (h : site.Ready)
    (hoperates : Backend.Operates operation kind path action) :
    site.AddsSpans operation kind path action := by
  obtain ⟨body, inside, rfl, hinside, hnested⟩ := hoperates.logs
  obtain ⟨provider, start, hbegin⟩ :
      ∃ provider start, Trace.begin? operation site = some (provider, start) := by
    rcases h.begins operation with ⟨-, start, hbegin, -⟩ | ⟨-, provider, start, hbegin, -⟩
    · exact ⟨_, _, hbegin⟩
    · exact ⟨_, _, hbegin⟩
  refine ⟨body, inside, provider, start, rfl, hinside, hnested, hbegin, ?_⟩
  have htraces := (hinside.traced operation kind path).traces h
  rw [htraces.spans_eq, Trace.logOf, hbegin, (Trace.traced_some kind path body hbegin).1]

/-! ## Steps -/

namespace Trace

variable {tracing : Trace}

theorem Matched.configuredFor (h : tracing.Matched) (environment : Environment) :
    (configuredFor environment tracing).Matched := by
  unfold Trace.configuredFor
  split
  · exact h.armed _
  · exact h

theorem Matched.isIdle_configuredFor (h : tracing.Matched) (environment : Environment) :
    (Trace.configuredFor environment tracing).isIdle =
      (!isEnabled environment && tracing.provider.isNone) := by
  unfold Trace.configuredFor
  cases isEnabled environment with
  | true =>
      rw [if_pos rfl, isIdle, ← Option.not_isSome, h.isSome_provider_armed, Bool.not_true,
        Bool.and_false, Bool.false_and]
  | false => rfl

theorem configuredFor_configuredFor (environment : Environment) (tracing : Trace) :
    configuredFor environment (configuredFor environment tracing) =
      configuredFor environment tracing := by
  unfold configuredFor
  cases isEnabled environment with
  | true => exact armed_armed tracing _
  | false => rfl

theorem Matched.clear (h : tracing.Matched) : tracing.clear.Matched := by
  rcases h with ⟨hprovider, hmemory⟩ | ⟨service, spans, hprovider, hmemory⟩
  · exact Or.inl ⟨hprovider, by rw [Trace.clear, hmemory]; rfl⟩
  · exact Or.inr ⟨service, [], hprovider, by rw [Trace.clear, hmemory]; rfl⟩

end Trace

/-- Is tracing idle after the step, if it is taken on the site? -/
def Step.idles (step : Step) (site : Site) : Bool :=
  match step with
  | .configureTracing => !Trace.isEnabled site.environment && site.tracing.provider.isNone
  | .resetTracing => false
  | _ => site.tracing.isIdle

/-- To set a variable changes the environment only. -/
theorem SessionAction.after_setVariable (name : Text) (value : Option Text) (site : Site) :
    ∃ environment, Action.after (setVariable name value) site = { site with environment } := by
  cases value with
  | none => exact ⟨_, rfl⟩
  | some value =>
      unfold setVariable Action.after
      by_cases hnul : (name.contains '\x00' || value.contains '\x00') = true
      · simp only [hnul, if_true]
        exact ⟨_, rfl⟩
      · simp only [Bool.not_eq_true _ ▸ hnul]
        exact ⟨_, rfl⟩

namespace Session

variable {session : Session} {step : Step}

/-- A configuration is answered with whether tracing is switched on, and leaves nothing else. -/
theorem advance_configure (hready : session.site.Ready) :
    session.advance .configureTracing =
      (⟨.ok (.flag (Trace.isEnabled session.site.environment)), [], []⟩,
        { session with site := { session.site with
          tracing := Trace.configuredFor session.site.environment session.site.tracing } }) := by
  have hrun : SessionAction.run .configureTracing session =
      EStateM.map Reply.flag (SessionAction.onSite Trace.configure) session := rfl
  unfold advance
  rw [hrun]
  simp only [EStateM.map, SessionAction.onSite, hready.configure, List.drop_length]
  rfl

/--
A step keeps a site ready as long as spans are to be kept in memory, and it is known whether tracing
is idle after it.
-/
theorem ready_advance (hready : session.site.Ready)
    (hcapture : Trace.keepsInMemory (session.advance step).2.site.environment = true) :
    (session.advance step).2.site.Ready ∧
      (session.advance step).2.site.tracing.isIdle = step.idles session.site := by
  have hother (hsetting : step.isSetting = false) (htracing : step.isOfTracing = false) :
      (session.advance step).2.site.Ready ∧
        (session.advance step).2.site.tracing.isIdle = session.site.tracing.isIdle := by
    have hsteady : Site.Steady session.site (session.advance step).2.site :=
      advance_follows Trace.follows_steady hsetting htracing
    exact ⟨hsteady.ready hready, hsteady.isIdle_eq hready⟩
  cases step with
  | setVariable name value =>
      obtain ⟨environment, hsite⟩ := SessionAction.after_setVariable name value session.site
      have hadvance : (session.advance (.setVariable name value)).2 =
          { session with site := { session.site with environment } } := by
        rw [← hsite]
        exact advance_of_answer rfl fun _ _ _ => Reply.noConfusion
      rw [hadvance] at hcapture ⊢
      exact ⟨⟨hcapture, hready.lacksTelemetry_eq, hready.matched⟩, rfl⟩
  | addRule rule =>
      exact ⟨⟨hready.keepsInMemory_eq, hready.lacksTelemetry_eq, hready.matched⟩, rfl⟩
  | configureTracing =>
      rw [advance_configure hready]
      exact ⟨⟨hready.keepsInMemory_eq, hready.lacksTelemetry_eq, hready.matched.configuredFor _⟩,
        hready.matched.isIdle_configuredFor _⟩
  | clearSpans =>
      exact ⟨⟨hready.keepsInMemory_eq, hready.lacksTelemetry_eq, hready.matched.clear⟩, rfl⟩
  | resetTracing =>
      exact ⟨⟨hready.keepsInMemory_eq, hready.lacksTelemetry_eq, hready.matched.clear⟩, rfl⟩
  | tracingEnabled => exact ⟨hready, rfl⟩
  | tracingService => exact ⟨hready, rfl⟩
  | spans => exact ⟨hready, rfl⟩
  | _ => exact hother rfl rfl

/-- The step lets tracing be set up again. -/
def Wakes (session : Session) (step : Step) : Prop :=
  step = .resetTracing ∨
    (step = .configureTracing ∧ Trace.isEnabled session.site.environment = true)

/-- A configuration of the session would leave tracing idle. -/
def IsBare (session : Session) : Prop :=
  Trace.isEnabled session.site.environment = false ∧ session.site.tracing.provider = none

theorem idles_iff : step.idles session.site = true ↔
    (step = .configureTracing ∧ session.IsBare) ∨
      (session.site.tracing.isIdle = true ∧ ¬ session.Wakes step) := by
  cases step with
  | configureTracing =>
      rw [Step.idles, Bool.and_eq_true, Bool.not_eq_true', Option.isNone_iff_eq_none]
      constructor
      · exact fun hbare => Or.inl ⟨rfl, hbare⟩
      · rintro (⟨-, hbare⟩ | ⟨hidle, hwakes⟩)
        · exact hbare
        · rw [Trace.isIdle, Bool.and_eq_true, Option.isNone_iff_eq_none] at hidle
          exact ⟨Bool.eq_false_iff.2 fun henabled => hwakes (Or.inr ⟨rfl, henabled⟩), hidle.2⟩
  | resetTracing => simp [Step.idles, Wakes]
  | _ => simp [Step.idles, Wakes]

theorem after_append (session : Session) (first second : List Step) :
    session.after (first ++ second) = (session.after first).after second := List.foldl_append

theorem after_concat (session : Session) (steps : List Step) (step : Step) :
    session.after (steps ++ [step]) = ((session.after steps).advance step).2 :=
  after_append session steps [step]

/-- Spans are to be kept in memory throughout the steps. -/
def KeepsSpans (session : Session) (steps : List Step) : Prop :=
  ∀ before, before <+: steps →
    Trace.keepsInMemory (session.after before).site.environment = true

variable {steps : List Step}

theorem KeepsSpans.of_concat (h : session.KeepsSpans (steps ++ [step])) :
    session.KeepsSpans steps :=
  fun before hbefore => h before (hbefore.trans (List.prefix_append steps [step]))

theorem KeepsSpans.last (h : session.KeepsSpans (steps ++ [step])) :
    Trace.keepsInMemory ((session.after steps).advance step).2.site.environment = true := by
  rw [← after_concat]
  exact h _ (List.prefix_refl _)

/-- As long as spans are to be kept in memory they can be. -/
theorem ready_after (hready : session.site.Ready) (hkeeps : session.KeepsSpans steps) :
    (session.after steps).site.Ready := by
  induction steps using List.reverseRecOn with
  | nil => exact hready
  | append_singleton steps step ih =>
      rw [after_concat]
      exact (ready_advance (ih hkeeps.of_concat) hkeeps.last).1

/--
The steps end with a configuration that left tracing idle, and with steps after it that did not
wake it.
-/
def FallsIdle (session : Session) (steps : List Step) : Prop :=
  ∃ before later, steps = before ++ .configureTracing :: later ∧ (session.after before).IsBare ∧
    ∀ middle step rest, later = middle ++ step :: rest →
      ¬ (session.after (before ++ .configureTracing :: middle)).Wakes step

theorem not_fallsIdle_nil : ¬ session.FallsIdle [] := by
  rintro ⟨before, later, hsteps, -⟩
  simp at hsteps

/-- One more step leaves tracing idle if it makes it so, or if it was and is not woken. -/
theorem fallsIdle_concat : session.FallsIdle (steps ++ [step]) ↔
    (step = .configureTracing ∧ (session.after steps).IsBare) ∨
      (session.FallsIdle steps ∧ ¬ (session.after steps).Wakes step) := by
  constructor
  · rintro ⟨before, later, hsteps, hbare, hasleep⟩
    rcases List.eq_nil_or_concat later with rfl | ⟨later, last, rfl⟩
    · -- The configuration is the last step itself.
      obtain ⟨rfl, hstep⟩ := List.append_inj' hsteps rfl
      cases hstep
      exact Or.inl ⟨rfl, hbare⟩
    · rw [List.concat_eq_append] at hasleep hsteps
      rw [← List.cons_append, ← List.append_assoc] at hsteps
      obtain ⟨rfl, hstep⟩ := List.append_inj' hsteps rfl
      cases hstep
      refine Or.inr ⟨⟨before, later, rfl, hbare, fun middle other rest hlater => ?_⟩, ?_⟩
      · exact hasleep middle other (rest ++ [step]) (by rw [hlater]; simp)
      · exact hasleep later step [] rfl
  · rintro (⟨rfl, hbare⟩ | ⟨⟨before, later, rfl, hbare, hasleep⟩, hwakes⟩)
    · exact ⟨steps, [], rfl, hbare, fun middle step rest h => by simp at h⟩
    · refine ⟨before, later ++ [step], by simp, hbare, fun middle other rest hlater => ?_⟩
      rcases List.eq_nil_or_concat rest with rfl | ⟨rest, last, rfl⟩
      · obtain ⟨rfl, hstep⟩ := List.append_inj' hlater rfl
        cases hstep
        exact hwakes
      · rw [List.concat_eq_append, ← List.cons_append, ← List.append_assoc] at hlater
        obtain ⟨hlater, -⟩ := List.append_inj' hlater rfl
        exact hasleep middle other rest hlater

/-- Tracing that was not idle is so after steps by which it fell idle and after no others. -/
theorem isIdle_after (hready : session.site.Ready) (hkeeps : session.KeepsSpans steps)
    (hidle : session.site.tracing.isIdle = false) :
    (session.after steps).site.tracing.isIdle = true ↔ session.FallsIdle steps := by
  induction steps using List.reverseRecOn with
  | nil =>
      refine ⟨fun h => ?_, fun h => absurd h not_fallsIdle_nil⟩
      cases h.symm.trans hidle
  | append_singleton steps step ih =>
      have hbefore := ready_after hready hkeeps.of_concat
      rw [after_concat, (ready_advance hbefore hkeeps.last).2, idles_iff, ih hkeeps.of_concat,
        fallsIdle_concat]

/-- A second configuration changes nothing and is reported as the first one was. -/
theorem configure_twice (hready : session.site.Ready) :
    session.after [.configureTracing, .configureTracing] = session.after [.configureTracing] ∧
      ((session.advance .configureTracing).2.advance .configureTracing).1 =
        (session.advance .configureTracing).1 := by
  have hafter : session.after [.configureTracing, .configureTracing] =
      ((session.advance .configureTracing).2.advance .configureTracing).2 := rfl
  have honce : session.after [.configureTracing] = (session.advance .configureTracing).2 := rfl
  rw [hafter, honce, advance_configure hready]
  have hnext : Site.Ready { session.site with
      tracing := Trace.configuredFor session.site.environment session.site.tracing } :=
    ⟨hready.keepsInMemory_eq, hready.lacksTelemetry_eq, hready.matched.configuredFor _⟩
  rw [advance_configure hnext, Trace.configuredFor_configuredFor]
  exact ⟨rfl, rfl⟩

end Session

/-! ## Sessions from their start -/

namespace Surroundings

theorem sameTracing_addFile (site : Site) (file : Text × ByteArray) :
    Site.SameTracing site (addFile site file) := by
  have hdisk : Keeps Site.SameTracing
      (onDisk (DiskAction.change (fun disk => disk.write file.1 file.2))) := keeps_onDisk _
  have hwrite : Keeps Site.SameTracing (Upkeep.writeFile file.1 file.2) :=
    keeps_ite (keeps_bind (keeps_onDisk _) fun _ => hdisk) hdisk
  unfold addFile
  split
  · next hrun => exact hwrite.ok hrun
  · next hrun => exact hwrite.error hrun

theorem sameTracing_session (surroundings : Surroundings) :
    Site.SameTracing surroundings.bareSite surroundings.session.site := by
  unfold session
  generalize surroundings.bareSite = site
  induction surroundings.files generalizing site with
  | nil => exact refl_of _ site
  | cons file files ih => exact trans_of _ (sameTracing_addFile site file) (ih _)

/--
Whatever a session did with tracing to memory, every traced operation adds a span for itself and for
every traced operation that ended in it, if tracing is switched on and not idle, and else none; and
so it is on every site with which tracing has been kept steady.  The session falls idle by a
configuration while tracing is switched off and no provider has been made, and is idle until tracing
is reset, or configured while it is switched on.  To configure tracing twice is to configure it
once.
-/
theorem spans_added (surroundings : Surroundings) (steps : List Step)
    (hlibrary : surroundings.lacksTelemetry = false)
    (hkeeps : surroundings.session.KeepsSpans steps) :
    (∀ {site : Site}, (surroundings.session.after steps).site.Steady site →
      ∀ {α : Type} {operation : Operation} {kind : Kind} {path : Text} {action : Action α},
        Backend.Operates operation kind path action →
          site.AddsSpans operation kind path action) ∧
      ((surroundings.session.after steps).site.tracing.isIdle = true ↔
        surroundings.session.FallsIdle steps) ∧
      surroundings.session.after (steps ++ [.configureTracing, .configureTracing]) =
        surroundings.session.after (steps ++ [.configureTracing]) := by
  obtain ⟨henvironment, htelemetry, htracing⟩ := surroundings.sameTracing_session
  have hstart : surroundings.session.site.Ready := by
    refine ⟨hkeeps [] (List.nil_prefix), htelemetry.trans hlibrary, ?_⟩
    rw [htracing]
    exact Or.inl ⟨rfl, rfl⟩
  have hready := Session.ready_after hstart hkeeps
  refine ⟨fun hsteady => (hsteady.ready hready).addsSpans, ?_, ?_⟩
  · exact Session.isIdle_after hstart hkeeps (by rw [htracing]; rfl)
  · rw [Session.after_append, Session.after_append]
    exact (Session.configure_twice hready).1

/-- Surroundings with a file, in which spans are to be kept in memory. -/
def capturing : Surroundings where
  files := [(['f'], ⟨#[49]⟩)]
  environment := [("ARTIFACTFS_OTEL_TEST_CAPTURE".toList, ['1'])]

/-- Tracing is configured, and then it is switched on. -/
def lateSteps : List Step :=
  [.configureTracing, .setVariable Trace.enabledSetting.toList (some ['1'])]

/-- A file is read without a span if tracing was configured before it was switched on. -/
theorem spans_added_late :
    (capturing.session.after lateSteps).site.tracing.isIdle = true ∧
      Trace.isEnabled (capturing.session.after lateSteps).site.environment = true ∧
      (after (Backend.readBytes .disk ['f'])
        (capturing.session.after lateSteps).site).tracing.spans = [] := by
  have hkeeps : capturing.session.KeepsSpans lateSteps := by
    intro before hbefore
    rcases List.prefix_cons_iff.1 hbefore with rfl | ⟨more, rfl, hmore⟩
    · rfl
    · rcases List.prefix_cons_iff.1 hmore with rfl | ⟨last, rfl, hlast⟩
      · rfl
      · rw [List.prefix_nil.1 hlast]
        rfl
  obtain ⟨hadds, hidle, -⟩ := spans_added capturing lateSteps rfl hkeeps
  have hfalls : capturing.session.FallsIdle lateSteps := by
    refine ⟨[], _, rfl, ⟨rfl, rfl⟩, fun middle step rest hlater => ?_⟩
    cases middle with
    | nil =>
        cases hlater
        rintro (hreset | ⟨hconfigure, -⟩)
        · cases hreset
        · cases hconfigure
    | cons first others => simp at hlater
  have hasleep := hidle.2 hfalls
  obtain ⟨_, _, _, _, -, -, -, -, hspans⟩ := hadds (refl_of _ _) (.readBytes .disk ['f'])
  refine ⟨hasleep, rfl, ?_⟩
  rw [hspans, Site.captures, hasleep, Bool.not_true, Bool.and_false, if_neg Bool.false_ne_true]
  rfl

end Surroundings

end ArtifactDepot
