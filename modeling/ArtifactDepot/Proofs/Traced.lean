import ArtifactDepot.Proofs.Records

/-!
# Traced operations

Tracing runs around an operation of a backend.  It changes nothing but
records, and it can stop the operation in two ways only (`Trace.Stops`), both
of them while it is switched on: where it is demanded and no sink can be
opened, and where the path has no digest.  `Trace.traced_cases` says that
otherwise the operation runs as it would alone, between two silent changes.
-/

namespace ArtifactDepot

open ArtifactDepot.Action

/-- What becomes of a value is of no concern to a relation between sites. -/
theorem Action.keeps_discard {α : Type} {R : Site → Site → Prop} {action : Action α}
    (h : Keeps R action) : Keeps R (discard action) := by
  intro site
  cases hrun : action site with
  | ok value site' => exact after_ok (discard_ok hrun) ▸ h.ok hrun
  | error failure site' => exact after_error (discard_error hrun) ▸ h.error hrun

namespace Trace

variable {α : Type} {K : Site → Site → Prop}

/-- The relation is kept by whatever tracing does on its own. -/
structure Writes (K : Site → Site → Prop) : Prop where
  /-- A change may not undo the configuration. -/
  update : ∀ {change : Trace → Trace},
    (∀ tracing, tracing.configured = true → (change tracing).configured = true) →
      Keeps K (Trace.update change)
  perform : ∀ protocol endpoint, Keeps K (Action.perform (.openExporter protocol endpoint))
  note : ∀ words, Keeps K (Action.note .error words)
  refuse : ∀ path, Keeps K (Trace.refuse path)

theorem writes_silent : Writes Site.Silent where
  update h := keeps_modify fun site => ⟨⟨rfl, fun _ => id, h site.tracing⟩, rfl⟩
  perform _ _ := keeps_perform_silent rfl
  note words := keeps_note .error words
  refuse _ := keeps_modify fun _ => ⟨⟨rfl, fun _ => id, id⟩, rfl⟩

/-! ## Configuring -/

/-- The call that opens the collector which the environment names. -/
def collectorCall (environment : Environment) : Call :=
  .openExporter
    (if environment.setting "ARTIFACTFS_OTEL_EXPORTER_OTLP_PROTOCOL" "grpc" = "http".toList
      then environment.setting "ARTIFACTFS_OTEL_EXPORTER_OTLP_PROTOCOL" "grpc"
      else "grpc".toList)
    (if (environment.setting "ARTIFACTFS_OTEL_EXPORTER_OTLP_ENDPOINT" "").isEmpty then none
      else some (environment.setting "ARTIFACTFS_OTEL_EXPORTER_OTLP_ENDPOINT" ""))

/-- The sink that the environment asks for can be opened. -/
def CanInstall (site : Site) : Prop :=
  keepsInMemory site.environment = true ∨
    site.environment.setting "ARTIFACTFS_OTEL_EXPORTER" "otlp" = "console".toList ∨
    site.hasExporters = true ∧
      Rule.strike? (collectorCall site.environment).row site.rules = none

/-- Tracing is not wanting: it is off, not demanded, set up already, or can be set up. -/
def Configurable (site : Site) : Prop :=
  isEnabled site.environment = true → site.lacksTelemetry = false →
    isRequired site.environment = true → site.tracing.configured = true ∨ CanInstall site

/-- Tracing is switched off, or its library is missing. -/
def isOff (site : Site) : Bool := !isEnabled site.environment || site.lacksTelemetry

theorem isOff_eq_false {site : Site} :
    isOff site = false ↔ isEnabled site.environment = true ∧ site.lacksTelemetry = false := by
  simp [isOff]

/-- Why the path of an operation has no digest where tracing needs one. -/
def flaw? (site : Site) (path : Text) : Option String :=
  if isOff site then none else site.digestFlaw? path

theorem flaw?_on {site : Site} (hon : isOff site = false) (path : Text) :
    flaw? site path = site.digestFlaw? path :=
  if_neg (Bool.eq_false_iff.1 hon)

/-- Only tracing that is on needs a digest. -/
theorem on_of_flaw? {site : Site} {path : Text} {words : String}
    (h : flaw? site path = some words) : isOff site = false := by
  cases hoff : isOff site with
  | true => cases h.symm.trans (if_pos hoff)
  | false => rfl

/-- What tracing stops an operation on a path with. -/
inductive Stops (site : Site) (path : Text) : Incident → Prop where
  | required (reason : String) (h : ¬ Configurable site) :
      Stops site path (.tracingRequired reason)
  | unencodable {words : String} (hflaw : flaw? site path = some words) :
      Stops site path (.unencodable words)

/-- Tracing cannot stop an operation on the path. -/
def Passable (site : Site) (path : Text) : Prop :=
  Configurable site ∧ flaw? site path = none

/-- A path without halves of pairs has an encoding, so only tracing that is wanting stops there. -/
theorem passable_of_no_half {site : Site} {path : Text} (h : Configurable site)
    (hdigest : site.digestFlaw? = Text.encodingFlaw?) (hnone : ∀ c ∈ path, Text.isHalf c = false) :
    Passable site path := by
  refine ⟨h, ?_⟩
  rw [flaw?, hdigest, Text.encodingFlaw?_eq_none_iff.2 hnone, ite_self]

theorem Stops.not_passable {site : Site} {path : Text} {incident : Incident}
    (h : Stops site path incident) : ¬ Passable site path := by
  intro hpassable
  cases h with
  | required reason hwanting => exact hwanting hpassable.1
  | unencodable hflaw => cases hpassable.2.symm.trans hflaw

/-- Tracing that is not wanting is not so later either. -/
theorem Configurable.recorded {before after : Site} (h : Configurable before)
    (hrecorded : Site.Recorded before after) : Configurable after := by
  unfold Configurable CanInstall at h ⊢
  rw [hrecorded.environment_eq, hrecorded.lacksTelemetry_eq, hrecorded.hasExporters_eq]
  intro henabled hlibrary hrequired
  rcases h henabled hlibrary hrequired with hdone | hmemory | hconsole | ⟨hexporters, hcalm⟩
  · exact Or.inl (hrecorded.configured hdone)
  · exact Or.inr (Or.inl hmemory)
  · exact Or.inr (Or.inr (Or.inl hconsole))
  · exact Or.inr (Or.inr (Or.inr ⟨hexporters, hrecorded.calm _ hcalm⟩))

theorem isOff_recorded {before after : Site} (h : Site.Recorded before after) :
    isOff after = isOff before := by
  rw [isOff, isOff, h.environment_eq, h.lacksTelemetry_eq]

theorem flaw?_recorded {before after : Site} (h : Site.Recorded before after) (path : Text) :
    flaw? after path = flaw? before path := by
  rw [flaw?, flaw?, isOff_recorded h, h.digestFlaw?_eq]

/-- Tracing that cannot stop an operation cannot do so later either. -/
theorem Passable.recorded {before after : Site} {path : Text} (h : Passable before path)
    (hrecorded : Site.Recorded before after) : Passable after path :=
  ⟨h.1.recorded hrecorded, (flaw?_recorded hrecorded path).trans h.2⟩

section Keeping

variable [IsPreorder Site K] (h : Writes K)

include h

theorem keeps_openCollector : Keeps K openCollector := by
  refine keeps_bind keeps_get fun site => ?_
  have hopen : Keeps K (perform (collectorCall site.environment)) :=
    h.perform _ _
  dsimp only
  exact keeps_ite (keeps_bind (keeps_throw _) fun _ => hopen) hopen

theorem keeps_install : Keeps K install := by
  refine keeps_bind keeps_get fun site => ?_
  have hsink : Keeps K (if keepsInMemory site.environment then
      update fun tracing =>
        { tracing with memory := some [], provider := some ⟨serviceName site.environment, .memory⟩ }
    else if site.environment.setting "ARTIFACTFS_OTEL_EXPORTER" "otlp" = "console".toList then
      update fun tracing =>
        { tracing with provider := some ⟨serviceName site.environment, .console⟩ }
    else do
      openCollector
      update fun tracing =>
        { tracing with provider := some ⟨serviceName site.environment, .collector⟩ }) := by
    refine keeps_ite (h.update fun _ => id) (keeps_ite (h.update fun _ => id) ?_)
    exact keeps_bind (keeps_openCollector h) fun _ => h.update fun _ => id
  dsimp only
  exact keeps_ite (keeps_bind (keeps_throw _) fun _ => hsink) hsink

theorem keeps_report (required : Bool) (failure : Failure) :
    Keeps K (report required failure) := by
  apply keeps_bind (h.note _)
  intro _
  split
  · exact keeps_bind (keeps_throw _) fun _ => keeps_pure _
  · exact keeps_bind (keeps_pure _) fun _ => keeps_pure _

theorem keeps_configure : Keeps K configure := by
  refine keeps_bind keeps_get fun site => ?_
  split
  · exact keeps_bind (h.update fun _ _ => rfl) fun _ => keeps_pure _
  · split
    · exact keeps_pure _
    · split
      · exact keeps_pure _
      · apply keeps_bind (h.update fun _ _ => rfl)
        intro _
        apply keeps_bind (keeps_outcome (keeps_install h))
        intro result
        cases result with
        | ok value => exact keeps_pure _
        | error failure => exact keeps_report h _ failure

theorem keeps_prepare : Keeps K prepare := by
  refine keeps_bind keeps_get fun site => ?_
  split
  · exact keeps_discard (keeps_configure h)
  · exact keeps_pure _

end Keeping

/-- A sink that can be opened is opened. -/
theorem install_ok {site : Site} (hlibrary : site.lacksTelemetry = false)
    (h : CanInstall site) : ∃ site', install site = .ok () site' := by
  unfold install
  rw [get_bind]
  dsimp only
  rw [hlibrary, if_neg Bool.false_ne_true]
  by_cases hmemory : keepsInMemory site.environment = true
  · rw [if_pos hmemory]
    exact ⟨_, rfl⟩
  · rw [if_neg hmemory]
    by_cases hconsole :
        site.environment.setting "ARTIFACTFS_OTEL_EXPORTER" "otlp" = "console".toList
    · rw [if_pos hconsole]
      exact ⟨_, rfl⟩
    · rw [if_neg hconsole]
      obtain ⟨hexporters, hcalm⟩ := (h.resolve_left hmemory).resolve_left hconsole
      have hopen : openCollector site = perform (collectorCall site.environment) site := by
        unfold openCollector
        rw [get_bind]
        dsimp only
        rw [hexporters, if_neg (by decide)]
        rfl
      exact ⟨_, bind_ok (hopen.trans (perform_ok hcalm))⟩

/-- A failure that need not stop the caller does not. -/
theorem report_ok (failure : Failure) (site : Site) :
    ∃ site', report false failure site = .ok false site' := ⟨_, rfl⟩

/-- The first configuration ends well if a sink can be opened or none is demanded. -/
theorem configure_ok {site : Site} (henabled : isEnabled site.environment = true)
    (hlibrary : site.lacksTelemetry = false) (hfirst : site.tracing.configured = false)
    (h : isRequired site.environment = true → CanInstall site) :
    ∃ done site', configure site = .ok done site' := by
  unfold configure
  rw [get_bind, henabled, Bool.not_true, if_neg Bool.false_ne_true]
  by_cases hkept : (site.tracing.memory.isSome && keepsInMemory site.environment) = true
  · rw [if_pos hkept]
    exact ⟨_, _, rfl⟩
  · rw [if_neg hkept, hfirst, Bool.false_and, if_neg Bool.false_ne_true]
    have hupdate : update (fun tracing => { tracing with configured := true }) site =
        .ok () { site with tracing := { site.tracing with configured := true } } := rfl
    rw [bind_ok hupdate]
    cases hinstall : install { site with tracing := { site.tracing with configured := true } } with
    | ok value site' =>
        have houtcome := outcome_of_ok hinstall
        rw [bind_ok houtcome]
        exact ⟨_, _, rfl⟩
    | error failure site' =>
        have houtcome := outcome_of_error hinstall
        rw [bind_ok houtcome]
        have hrequired : isRequired site.environment = false := by
          rw [← Bool.not_eq_true]
          intro hrequired
          obtain ⟨site'', hok⟩ : ∃ site'',
              install { site with tracing := { site.tracing with configured := true } } =
                .ok () site'' := install_ok hlibrary (h hrequired)
          rw [hok] at hinstall
          cases hinstall
        dsimp only
        rw [hrequired]
        obtain ⟨site'', hreport⟩ := report_ok failure site'
        exact ⟨_, _, hreport⟩

/-- Tracing that is not wanting is set up, or left as it is, without a failure. -/
theorem prepare_ok {site : Site} (henabled : isEnabled site.environment = true)
    (hlibrary : site.lacksTelemetry = false) (h : Configurable site) :
    ∃ site', prepare site = .ok () site' := by
  unfold prepare
  rw [get_bind]
  cases hconfigured : site.tracing.configured with
  | true => exact ⟨_, rfl⟩
  | false =>
      have hcan (hrequired : isRequired site.environment = true) : CanInstall site := by
        apply (h henabled hlibrary hrequired).resolve_left
        rw [hconfigured]
        exact Bool.false_ne_true
      obtain ⟨done, site', hdone⟩ := configure_ok henabled hlibrary hconfigured hcan
      exact ⟨site', discard_ok hdone⟩

/-- Only tracing that is demanded and cannot be set up makes a configuration fail. -/
theorem configure_error {site site' : Site} {failure : Failure}
    (h : configure site = .error failure site') :
    ∃ reason, failure = .incident (.tracingRequired reason) := by
  unfold configure at h
  rw [get_bind] at h
  split at h
  · cases h
  · split at h
    · cases h
    · split at h
      · cases h
      · have hupdate : update (fun tracing => { tracing with configured := true }) site =
            .ok () { site with tracing := { site.tracing with configured := true } } := rfl
        rw [bind_ok hupdate] at h
        cases hinstall : install { site with tracing := { site.tracing with configured := true } } with
        | ok value site₁ =>
            rw [bind_ok (outcome_of_ok hinstall)] at h
            cases h
        | error failure₁ site₁ =>
            rw [bind_ok (outcome_of_error hinstall)] at h
            dsimp only at h
            cases hrequired : isRequired site.environment with
            | false =>
                rw [hrequired] at h
                cases h
            | true =>
                rw [hrequired] at h
                cases h
                exact ⟨_, rfl⟩

theorem prepare_error {site site' : Site} {failure : Failure}
    (h : prepare site = .error failure site') :
    ∃ reason, failure = .incident (.tracingRequired reason) := by
  unfold prepare at h
  rw [get_bind] at h
  split at h
  · cases hconfigure : configure site with
    | ok value site₁ =>
        rw [discard_ok hconfigure] at h
        cases h
    | error failure₁ site₁ =>
        rw [discard_error hconfigure] at h
        cases h
        exact configure_error hconfigure
  · cases h

/-! ## Running inside a span -/

/-- An action runs as another one would alone, between two changes that the relation allows. -/
inductive FramedBy (K : Site → Site → Prop) (action framed : Action α) (site : Site) : Prop where
  | ok {site₁ site₂ site' : Site} {value : α} (before : K site site₁)
      (run : action site₁ = .ok value site₂) (after : K site₂ site')
      (result : framed site = .ok value site')
  | error {site₁ site₂ site' : Site} {failure : Failure} (before : K site site₁)
      (run : action site₁ = .error failure site₂) (after : K site₂ site')
      (result : framed site = .error failure site')

/-- An action runs as another one would alone, between two silent changes. -/
abbrev Framed (action framed : Action α) (site : Site) : Prop :=
  FramedBy Site.Silent action framed site

namespace FramedBy

variable [IsPreorder Site K] {action framed : Action α} {site site₀ site' : Site}

/-- The action alone, after a silent change. -/
theorem alone (hsilent : K site site₀) (hsame : framed site = action site₀) :
    FramedBy K action framed site := by
  cases hrun : action site₀ with
  | ok value site' => exact .ok hsilent hrun (refl_of K site') (hsame.trans hrun)
  | error failure site' => exact .error hsilent hrun (refl_of K site') (hsame.trans hrun)

/-- A silent change may come first. -/
theorem later {whole : Action α} (hsilent : K site site₀)
    (hsame : whole site = framed site₀) (h : FramedBy K action framed site₀) :
    FramedBy K action whole site := by
  cases h with
  | ok before run after result => exact .ok (trans_of K hsilent before) run after (hsame.trans result)
  | error before run after result =>
      exact .error (trans_of K hsilent before) run after (hsame.trans result)

omit [IsPreorder Site K] in
/-- A relation that the action keeps and that allows silent changes is kept. -/
theorem keeps {R : Site → Site → Prop} [IsPreorder Site R]
    (hsilent : ∀ {before after}, K before after → R before after)
    (haction : Keeps R action) (h : FramedBy K action framed site) :
    R site (Action.after framed site) := by
  cases h with
  | ok before run after result =>
      rw [after_ok result]
      exact trans_of R (hsilent before) (trans_of R (haction.ok run) (hsilent after))
  | error before run after result =>
      rw [after_error result]
      exact trans_of R (hsilent before) (trans_of R (haction.error run) (hsilent after))

end FramedBy

variable {operation : Operation} {kind : Kind} {path : Text} {action : Action α}

theorem digested_ok {site : Site} (h : site.digestFlaw? path = none) :
    digested path action site = action site := by
  unfold digested
  rw [get_bind, h]

theorem digested_error {site : Site} {words : String} (h : site.digestFlaw? path = some words) :
    digested path action site =
      .error (.incident (.unencodable words)) (after (refuse path) site) := by
  unfold digested
  rw [get_bind, h]
  rfl

/-- A path that is refused is on the list. -/
theorem mem_after_refuse (path : Text) (site : Site) : path ∈ (after (refuse path) site).refusals :=
  List.mem_append_right _ (List.mem_singleton_self path)

/-- What a span around an action tells when the action has ended. -/
theorem within_ok {site site₂ : Site} {value : α} (provider : Provider)
    (h : digested path action { site with tracing := enter site.tracing operation.spanName } =
      .ok value site₂) :
    within provider operation kind path action site = .ok value { site₂ with
      tracing := leave site₂.tracing provider.sink
        (.ofSuccess operation kind (digest? site path) site.tracing.active.head?) } := by
  have henter : update (enter · operation.spanName) site = .ok () _ := rfl
  unfold within
  rw [get_bind, bind_ok henter, bind_ok (outcome_of_ok h)]
  rfl

theorem within_error {site site₂ : Site} {failure : Failure} (provider : Provider)
    (h : digested path action { site with tracing := enter site.tracing operation.spanName } =
      .error failure site₂) :
    within provider operation kind path action site = .error failure { site₂ with
      tracing := leave site₂.tracing provider.sink
        (.ofFailure operation kind (digest? site path) site.tracing.active.head? failure
          (site.tracing.stackTrace operation kind path failure)) } := by
  have henter : update (enter · operation.spanName) site = .ok () _ := rfl
  unfold within
  rw [get_bind, bind_ok henter, bind_ok (outcome_of_error h)]
  rfl

/-- Spans are begun and ended as the relation allows. -/
theorem Writes.retold (hwrites : Writes K) (change : Trace → Trace)
    (hchange : ∀ tracing, (change tracing).configured = tracing.configured) (site : Site) :
    K site { site with tracing := change site.tracing } :=
  hwrites.update (fun tracing h => (hchange tracing).trans h) site

/-- A span around an action frames it, if the path has a digest. -/
theorem within_framed (hwrites : Writes K) (provider : Provider) {site : Site}
    (hflaw : site.digestFlaw? path = none) :
    FramedBy K action (within provider operation kind path action) site := by
  have hbefore := hwrites.retold (enter · operation.spanName) (fun _ => rfl) site
  have hafter (span : Span) := hwrites.retold (leave · provider.sink span) fun _ => rfl
  have hdigested :
      digested path action { site with tracing := enter site.tracing operation.spanName } =
        action { site with tracing := enter site.tracing operation.spanName } := digested_ok hflaw
  cases hrun : action { site with tracing := enter site.tracing operation.spanName } with
  | ok value site₂ =>
      exact .ok hbefore hrun (hafter _ site₂) (within_ok provider (hdigested.trans hrun))
  | error failure site₂ =>
      exact .error hbefore hrun (hafter _ site₂) (within_error provider (hdigested.trans hrun))

/-- Without a digest there is nothing but the span. -/
theorem within_stopped [IsPreorder Site K] (hwrites : Writes K) (provider : Provider) {site : Site}
    {words : String} (hflaw : site.digestFlaw? path = some words) :
    ∃ site', within provider operation kind path action site =
      .error (.incident (.unencodable words)) site' ∧ K site site' ∧ path ∈ site'.refusals := by
  have hdigested :
      digested path action { site with tracing := enter site.tracing operation.spanName } =
        .error (.incident (.unencodable words)) _ := digested_error hflaw
  have hbefore := trans_of K (hwrites.retold (enter · operation.spanName) (fun _ => rfl) site)
    (hwrites.refuse path _)
  exact ⟨_, within_error provider hdigested,
    trans_of K hbefore (hwrites.retold (leave · provider.sink _) (fun _ => rfl) _),
    mem_after_refuse path _⟩

/-- Without tracing an action stands alone. -/
theorem traced_off {site : Site} (h : isOff site = true) :
    traced operation kind path action site = action site :=
  congrFun (if_pos h) site

/-- A failure of the preparation stops the action. -/
theorem traced_stopped {site site' : Site} {failure : Failure} (hon : isOff site = false)
    (h : prepare site = .error failure site') :
    traced operation kind path action site = .error failure site' :=
  (congrFun (if_neg (Bool.eq_false_iff.1 hon)) site).trans (bind_error h)

/-- Without a provider the prepared action stands alone behind the digest. -/
theorem traced_bare {site prepared : Site} (hon : isOff site = false)
    (h : prepare site = .ok () prepared) (hprovider : prepared.tracing.provider = none) :
    traced operation kind path action site = digested path action prepared := by
  refine (congrFun (if_neg (Bool.eq_false_iff.1 hon)) site).trans ((bind_ok h).trans ?_)
  rw [get_bind, hprovider]

/-- A provider puts the prepared action inside a span. -/
theorem traced_within {site prepared : Site} {provider : Provider} (hon : isOff site = false)
    (h : prepare site = .ok () prepared) (hprovider : prepared.tracing.provider = some provider) :
    traced operation kind path action site =
      within provider operation kind path action prepared := by
  refine (congrFun (if_neg (Bool.eq_false_iff.1 hon)) site).trans ((bind_ok h).trans ?_)
  rw [get_bind, hprovider]

/-- Tracing stops an action on the path, between two sites that are related; a path without a
digest is on the list of those that were refused then. -/
def StoppedBy (K : Site → Site → Prop) (path : Text) (stopped : Action α) (site : Site) : Prop :=
  ∃ incident site', stopped site = .error (.incident incident) site' ∧ K site site' ∧
    Stops site path incident ∧ ∀ words, incident = .unencodable words → path ∈ site'.refusals

/-- A preparation that fails does so because tracing is demanded and wanting. -/
theorem traced_unprepared (hwrites : Writes K) [IsPreorder Site K] {site prepared : Site}
    {failure : Failure} (hon : isOff site = false) (h : prepare site = .error failure prepared) :
    StoppedBy K path (traced operation kind path action) site := by
  obtain ⟨reason, rfl⟩ := prepare_error h
  obtain ⟨henabled, hlibrary⟩ := isOff_eq_false.1 hon
  refine ⟨_, prepared, traced_stopped hon h, (keeps_prepare hwrites).error h,
    .required reason fun hconfigurable => ?_, nofun⟩
  obtain ⟨site', hok⟩ := prepare_ok henabled hlibrary hconfigurable
  cases h.symm.trans hok

/-- The preparation does not change which paths have a digest. -/
theorem digestFlaw?_prepared {site prepared : Site} (h : prepare site = .ok () prepared)
    (path : Text) : prepared.digestFlaw? path = site.digestFlaw? path :=
  congrFun ((keeps_prepare writes_silent).ok h).digestFlaw?_eq path

/-- Without a digest the action is stopped, whether there is a provider or not. -/
theorem traced_refused (hwrites : Writes K) [IsPreorder Site K] {site : Site} {words : String}
    (hflaw : flaw? site path = some words) :
    StoppedBy K path (traced operation kind path action) site := by
  have hon := on_of_flaw? hflaw
  cases hprepare : prepare site with
  | error failure prepared => exact traced_unprepared hwrites hon hprepare
  | ok value prepared =>
      have hkept := (keeps_prepare hwrites).ok hprepare
      have hwords : prepared.digestFlaw? path = some words :=
        (digestFlaw?_prepared hprepare path).trans ((flaw?_on hon path).symm.trans hflaw)
      cases hprovider : prepared.tracing.provider with
      | none =>
          exact ⟨_, _, (traced_bare hon hprepare hprovider).trans (digested_error hwords),
            trans_of K hkept (hwrites.refuse path prepared), .unencodable hflaw,
            fun _ _ => mem_after_refuse path prepared⟩
      | some provider =>
          obtain ⟨site', hrun, hleft, hnoted⟩ := within_stopped hwrites provider hwords
          exact ⟨_, site', (traced_within hon hprepare hprovider).trans hrun,
            trans_of K hkept hleft, .unencodable hflaw, fun _ _ => hnoted⟩

/-- With a digest a prepared action is framed, whether there is a provider or not. -/
theorem traced_prepared (hwrites : Writes K) [IsPreorder Site K] {site prepared : Site}
    (hon : isOff site = false) (hflaw : flaw? site path = none)
    (h : prepare site = .ok () prepared) :
    FramedBy K action (traced operation kind path action) site := by
  have hkept := (keeps_prepare hwrites).ok h
  have hnone : prepared.digestFlaw? path = none :=
    (digestFlaw?_prepared h path).trans ((flaw?_on hon path).symm.trans hflaw)
  cases hprovider : prepared.tracing.provider with
  | none => exact .alone hkept ((traced_bare hon h hprovider).trans (digested_ok hnone))
  | some provider =>
      exact .later hkept (traced_within hon h hprovider) (within_framed hwrites provider hnone)

/-- A traced action is framed, unless tracing stops it. -/
theorem traced_by (hwrites : Writes K) [IsPreorder Site K] (operation : Operation) (kind : Kind)
    (path : Text) (action : Action α) (site : Site) :
    StoppedBy K path (traced operation kind path action) site ∨
      FramedBy K action (traced operation kind path action) site := by
  cases hoff : isOff site with
  | true => exact Or.inr (.alone (refl_of K site) (traced_off hoff))
  | false =>
      cases hflaw : flaw? site path with
      | some words => exact Or.inl (traced_refused hwrites hflaw)
      | none =>
          cases hprepare : prepare site with
          | error failure prepared => exact Or.inl (traced_unprepared hwrites hoff hprepare)
          | ok value prepared => exact Or.inr (traced_prepared hwrites hoff hflaw hprepare)

/-- Of what tracing does on its own it mostly matters that it is silent. -/
theorem traced_cases (operation : Operation) (kind : Kind) (path : Text) (action : Action α)
    (site : Site) :
    (∃ failure site', traced operation kind path action site = .error failure site' ∧
        Site.Silent site site' ∧ ¬ Passable site path) ∨
      Framed action (traced operation kind path action) site :=
  (traced_by writes_silent operation kind path action site).imp_left
    fun ⟨_, site', hrun, hsilent, hstops, _⟩ => ⟨_, site', hrun, hsilent, hstops.not_passable⟩

/-- Tracing keeps what the traced action keeps. -/
theorem keeps_traced {R : Site → Site → Prop} [IsPreorder Site R]
    (hsilent : ∀ {before after}, Site.Silent before after → R before after)
    (h : Keeps R action) : Keeps R (traced operation kind path action) := by
  intro site
  rcases traced_cases operation kind path action site with ⟨failure, site', hrun, hkept, -⟩ | hframed
  · rw [after_error hrun]
    exact hsilent hkept
  · exact hframed.keeps hsilent h

/-- Tracing lets through what holds of an action, as far as silent changes do not matter. -/
theorem ends_traced {before : Site → Prop} {after : α → Site → Prop}
    {failed : Site → Prop} (h : Ends before action after failed)
    (hbefore : ∀ {site site'}, Site.Silent site site' → before site → before site')
    (hafter : ∀ {value site site'}, Site.Silent site site' → after value site → after value site')
    (hfailed : ∀ {site site'}, Site.Silent site site' → failed site → failed site')
    (hstopped : ∀ {site}, ¬ Passable site path → before site → failed site) :
    Ends before (traced operation kind path action) after failed := by
  intro site hsite
  rcases traced_cases operation kind path action site with
    ⟨failure, site', hrun, hkept, himpassable⟩ | hframed
  · rw [hrun]
    exact hfailed hkept (hstopped himpassable hsite)
  · cases hframed with
    | ok hto hrun hfrom hresult =>
        rw [hresult]
        exact hafter hfrom (h.ok (hbefore hto hsite) hrun)
    | error hto hrun hfrom hresult =>
        rw [hresult]
        exact hfailed hfrom (h.error (hbefore hto hsite) hrun)

end Trace

end ArtifactDepot
